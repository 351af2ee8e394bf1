import Superstore.Access.Auth

/-!
# Staff accounts

A member of the staff logs in with a password, and every later request shows the token of the session that the
login has opened. The guard looks the session up, then the account; only then the request is carried out. Changing
the password closes the sessions that are open, deactivating an account does so after it has been deactivated.
Every call of the database and of the token library is a step of its own.

Beside the tables is kept what they forget: the tokens that have been signed, whom the guard has let in, and what
the routes of other modules have done for them. -/

namespace Superstore.Staff

open Interleaving Relational

/-! ## Rows -/

/-- The role of a member of the staff. -/
inductive StaffRole
  | superAdmin | operationsAdmin | financeAdmin | riskComplianceAdmin | merchantAdmin | customerSupportAdmin
  | creditBnplAdmin | auditObserverAdmin | regionalAdmin | complianceLead
  deriving DecidableEq

/-- Whether an account of the staff may be used. -/
inductive StaffStatus
  | active | inactive | suspended
  deriving DecidableEq

/-- An account of the staff. -/
structure StaffUser where
  email : String
  firstName : String
  lastName : String
  phoneNumber : Option String := none
  passwordHash : String
  role : StaffRole
  status : StaffStatus := .active
  mustChangePassword : Bool := true
  createdById : Option ℕ := none
  lastLoginAt : Option ℕ := none

/-- A session of the staff. -/
structure StaffSession where
  staffUserId : ℕ
  sessionTokenHash : String
  lastSeenAt : ℕ := 0
  expiresAt : ℕ
  revokedAt : Option ℕ := none

/-- An entry of the log, about a change of a staff account where the action says so. -/
structure AuditLog where
  staffActorId : ℕ
  action : String
  entityId : ℕ
  deriving DecidableEq

/-- What the token of a session says. -/
structure Token where
  sub : ℕ
  sid : ℕ
  exp : ℕ
  deriving DecidableEq

/-- Somebody whom the guard has let in, with the role that the account had. -/
structure Admission where
  staffId : ℕ
  sessionId : ℕ
  role : StaffRole
  deriving DecidableEq

/-- What a route has done for somebody, and the permissions that it asks for. -/
structure Handled where
  staffId : ℕ
  required : Option (List String)
  deriving DecidableEq

/-- The tables of the staff, and what has happened to them. -/
structure State where
  staffUser : Table StaffUser := Table.empty
  staffSession : Table StaffSession := Table.empty
  auditLog : Table AuditLog := Table.empty
  signed : List Token := []
  admissions : List Admission := []
  handled : List Handled := []

/-- What a call is told from outside. -/
structure Env where
  now : ℕ := 0
  sessionTokenHash : String := ""
  passwordMatches : Bool := true
  passwordHash : String := ""
  mailFails : Bool := false
  accessTtlMs : ℕ := 900000

/-! ## Permissions -/

/-- The permissions of each role. -/
def staffPermissions : StaffRole → List String
  | .superAdmin => ["admin.*"]
  | .operationsAdmin =>
    ["users.view", "stores.view", "stores.update", "products.view", "orders.view", "orders.cancel",
      "orders.status.update", "deliveries.view", "deliveries.assign", "deliveries.status.update", "reports.view",
      "roles.assign", "roles.revoke", "rewards.manage", "support.tickets.manage", "chats.moderate"]
  | .financeAdmin =>
    ["orders.view", "orders.refund.approve", "payments.view", "payments.reconcile", "payments.reverse",
      "wallets.view", "wallets.credit", "wallets.debit", "reports.view", "reports.export", "rewards.manage"]
  | .riskComplianceAdmin =>
    ["users.view", "users.freeze", "riders.view", "kyc.read", "kyc.review", "risk.flag", "risk.blacklist.create",
      "risk.blacklist.remove", "audit.view", "reports.view"]
  | .merchantAdmin =>
    ["stores.view", "stores.create", "stores.update", "stores.activate", "stores.suspend", "merchants.approve",
      "merchants.suspend", "products.view", "products.create", "products.update", "inventory.adjust", "orders.view"]
  | .customerSupportAdmin =>
    ["users.view", "users.update", "users.freeze", "orders.view", "orders.cancel", "orders.refund.initiate",
      "products.view", "stores.view", "support.tickets.manage", "chats.moderate"]
  | .creditBnplAdmin =>
    ["users.view", "bnpl.loan.create", "bnpl.limit.adjust", "bnpl.repayment.restructure", "reports.view",
      "bnpl.repayments.view"]
  | .auditObserverAdmin =>
    ["users.view", "stores.view", "products.view", "orders.view", "payments.view", "deliveries.view", "riders.view",
      "kyc.read", "reports.view", "reports.export", "audit.view", "audit.export"]
  | .regionalAdmin =>
    ["users.view", "stores.view", "stores.update", "products.view", "orders.view", "orders.cancel",
      "deliveries.view", "deliveries.assign", "riders.view", "reports.view"]
  | .complianceLead =>
    ["users.view", "users.freeze", "riders.view", "kyc.read", "kyc.review", "risk.flag", "risk.blacklist.create",
      "audit.view", "audit.export", "reports.view"]

/-- The permissions of a role. -/
def getStaffPermissions (role : StaffRole) : List String := staffPermissions role

/-- Whether a key ends as wildcards do. -/
def isWildcard (candidate : String) : Bool := ['.', '*'].isSuffixOf candidate.toList

/-- Whether a key covers a permission, as a wildcard that begins as the permission does. -/
def covers (candidate permission : String) : Bool :=
  isWildcard candidate && candidate.toList.dropLast.isPrefixOf permission.toList

/-- Whether the keys that are granted suffice for a permission. -/
def grants (granted : List String) (permission : String) : Bool :=
  granted.contains permission || granted.contains "*" || granted.contains "admin.*" ||
    granted.any (covers · permission)

/-- A member of the staff as guards know one. -/
structure AuthenticatedStaff where
  id : ℕ
  email : String
  role : StaffRole
  permissions : List String
  sessionId : ℕ
  mustChangePassword : Bool

/-- The guard of permissions: a route asks for some, and what it does not name is open. -/
def hasPermissions (required : Option (List String)) (staffUser : Option AuthenticatedStaff) : Except Error Unit :=
  if (required.getD []).isEmpty then pure ()
  else if staffUser.isSome ∧
      (required.getD []).all (grants ((staffUser.map AuthenticatedStaff.permissions).getD [])) = true then pure ()
  else .error (.forbidden "Required staff permission is missing.")

/-! ## Calls -/

/-- What a request to create an account says. -/
structure CreateStaffUserDto where
  email : String
  firstName : String
  lastName : String
  role : StaffRole
  phoneNumber : Option String := none

/-- What a request to change an account says; what it does not name stays. A phone number that is named as null
clears the one that is there. -/
structure UpdateStaffUserDto where
  role : Option StaffRole := none
  firstName : Option String := none
  lastName : Option String := none
  status : Option StaffStatus := none
  phoneNumber : Option (Option String) := none

/-- The calls of the staff service; each is atomic. -/
inductive Op : Type → Type 1
  | now : Op ℕ
  | findStaffByEmail (email : String) : Op (Option (ℕ × StaffUser))
  | findStaff (id : ℕ) : Op (Option StaffUser)
  | comparePassword (password passwordHash : String) : Op Bool
  | hashPassword (password : String) : Op String
  | createSession (staffId : ℕ) : Op ℕ
  | signToken (staffId sessionId : ℕ) : Op Token
  | verifyToken (token : Token) : Op Token
  | findSession (id : ℕ) : Op (Option StaffSession)
  | touchSession (id : ℕ) : Op Unit
  | letIn (staffId sessionId : ℕ) : Op (Option StaffUser)
  | noteLogin (staffId : ℕ) : Op Unit
  | revokeSession (id : ℕ) : Op Unit
  | revokeSessions (staffId : ℕ) : Op Unit
  | changePassword (staffId : ℕ) (passwordHash : String) : Op Unit
  | createStaff (row : StaffUser) : Op ℕ
  | updateStaff (id : ℕ) (dto : UpdateStaffUserDto) : Op StaffUser
  | deactivateStaff (id : ℕ) : Op Unit
  | audit (staffActorId : ℕ) (action : String) (entityId : ℕ) : Op Unit
  | sendTemplate (email : String) : Op Unit
  | handle (staffId : ℕ) (required : Option (List String)) : Op Unit

/-- How long a session lasts. -/
def sessionTtlMs : ℕ := 30 * 24 * 60 * 60 * 1000

/-- A text that is named and not empty replaces the one that is there. -/
def orKept (named : Option String) (kept : String) : String := (named.filter (· ≠ "")).getD kept

/-- A changed account. -/
def StaffUser.updated (dto : UpdateStaffUserDto) (u : StaffUser) : StaffUser :=
  { u with
    role := dto.role.getD u.role
    firstName := orKept dto.firstName u.firstName
    lastName := orKept dto.lastName u.lastName
    status := dto.status.getD u.status
    phoneNumber := dto.phoneNumber.getD u.phoneNumber }

/-- Whether another account has a phone number. -/
def State.phoneTaken (s : State) (id : ℕ) (phoneNumber : Option String) : Bool :=
  phoneNumber.any fun number => (s.staffUser.first fun i u => i != id && u.phoneNumber == some number).isSome

/-- A session that is closed by hand. -/
def StaffSession.revoked (now : ℕ) (r : StaffSession) : StaffSession := { r with revokedAt := some now }

/-- The open sessions of an account. -/
def isOpenOf (staffId : ℕ) (_ : ℕ) (r : StaffSession) : Bool := r.staffUserId == staffId && r.revokedAt.isNone

/-- What a call does. -/
def exec : {α : Type} → Op α → Env → State → Except Error α × State
  | _, .now, e, s => (.ok e.now, s)
  | _, .findStaffByEmail email, _, s => (.ok (s.staffUser.first fun _ u => u.email == email), s)
  | _, .findStaff id, _, s => (.ok (s.staffUser.find id), s)
  | _, .comparePassword _ _, e, s => (.ok e.passwordMatches, s)
  | _, .hashPassword _, e, s => (.ok e.passwordHash, s)
  | _, .createSession staffId, e, s =>
    if (s.staffSession.first fun _ r => r.sessionTokenHash == e.sessionTokenHash).isSome then
      (.error .uniqueViolation, s)
    else
      (.ok s.staffSession.next,
        { s with
          staffSession := s.staffSession.create
            { staffUserId := staffId, sessionTokenHash := e.sessionTokenHash, lastSeenAt := e.now
              expiresAt := e.now + sessionTtlMs } })
  | _, .signToken staffId sessionId, e, s =>
    (.ok ⟨staffId, sessionId, e.now + e.accessTtlMs⟩,
      { s with signed := ⟨staffId, sessionId, e.now + e.accessTtlMs⟩ :: s.signed })
  | _, .verifyToken token, e, s =>
    if token ∈ s.signed ∧ e.now < token.exp then (.ok token, s) else (.error (.provider "jwt"), s)
  | _, .findSession id, _, s => (.ok (s.staffSession.find id), s)
  | _, .touchSession id, e, s =>
    if (s.staffSession.find id).isSome then
      (.ok (), { s with staffSession := s.staffSession.update id fun r => { r with lastSeenAt := e.now } })
    else (.error .recordNotFound, s)
  | _, .letIn staffId sessionId, _, s =>
    match s.staffUser.find staffId with
    | some u =>
      (.ok (some u),
        if u.status = .active then { s with admissions := ⟨staffId, sessionId, u.role⟩ :: s.admissions } else s)
    | none => (.ok none, s)
  | _, .noteLogin staffId, e, s =>
    if (s.staffUser.find staffId).isSome then
      (.ok (), { s with staffUser := s.staffUser.update staffId fun u => { u with lastLoginAt := some e.now } })
    else (.error .recordNotFound, s)
  | _, .revokeSession id, e, s =>
    (.ok (), { s with staffSession := s.staffSession.update id (StaffSession.revoked e.now) })
  | _, .revokeSessions staffId, e, s =>
    (.ok (), { s with staffSession := s.staffSession.updateMany (isOpenOf staffId) (StaffSession.revoked e.now) })
  | _, .changePassword staffId passwordHash, e, s =>
    if (s.staffUser.find staffId).isSome then
      (.ok (),
        { s with
          staffUser := s.staffUser.update staffId fun u =>
            { u with passwordHash := passwordHash, mustChangePassword := false }
          staffSession := s.staffSession.updateMany (isOpenOf staffId) (StaffSession.revoked e.now) })
    else (.error .recordNotFound, s)
  | _, .createStaff row, _, s =>
    if (s.staffUser.first fun _ u => u.email == row.email).isSome ∨
      s.phoneTaken s.staffUser.next row.phoneNumber then
      (.error .uniqueViolation, s)
    else (.ok s.staffUser.next, { s with staffUser := s.staffUser.create row })
  | _, .updateStaff id dto, _, s =>
    match s.staffUser.find id with
    | some u =>
      if s.phoneTaken id dto.phoneNumber.join then (.error .uniqueViolation, s)
      else (.ok (u.updated dto), { s with staffUser := s.staffUser.update id (StaffUser.updated dto) })
    | none => (.error .recordNotFound, s)
  | _, .deactivateStaff id, _, s =>
    if (s.staffUser.find id).isSome then
      (.ok (), { s with staffUser := s.staffUser.update id fun u => { u with status := .inactive } })
    else (.error .recordNotFound, s)
  | _, .audit staffActorId action entityId, _, s =>
    (.ok (), { s with auditLog := s.auditLog.create ⟨staffActorId, action, entityId⟩ })
  | _, .sendTemplate _, e, s => if e.mailFails then (.error (.provider "mail"), s) else (.ok (), s)
  | _, .handle staffId required, _, s => (.ok (), { s with handled := ⟨staffId, required⟩ :: s.handled })

/-- The calls, run on the tables and the provider of mails. -/
def machine : Machine Op Error State Env where
  exec := exec

/-! ## Requests -/

/-- A program over the calls of the staff service. -/
abbrev Request := Prog Op Error

/-- Open a session for an account and sign its token. -/
def issueTokens (staffId : ℕ) : Request (Token × ℕ) := do
  let sessionId ← Prog.call (.createSession staffId)
  let accessToken ← Prog.call (.signToken staffId sessionId)
  pure (accessToken, sessionId)

/-- Log in with a password. -/
def login (email password : String) : Request Token := do
  let found ← Prog.call (.findStaffByEmail (Auth.normalizedEmail email))
  let (id, staff) ← Prog.orFail (found.filter fun u => u.2.passwordHash != "")
    (.unauthorized "Invalid credentials.")
  let valid ← Prog.call (.comparePassword password staff.passwordHash)
  Prog.require (valid = true ∧ staff.status = .active) (.unauthorized "Invalid credentials or inactive account.")
  let (accessToken, _) ← issueTokens id
  let _ ← Prog.call (.noteLogin id)
  pure accessToken

/-- Look up the session of a token, and then the account. -/
def validateSession (staffId sessionId : ℕ) : Request StaffUser := do
  let session ← Prog.call (.findSession sessionId)
  let now ← Prog.call .now
  let _ ← Prog.orFail
    (session.filter fun r => r.staffUserId == staffId && r.revokedAt.isNone && decide (now < r.expiresAt))
    (.unauthorized "Session has expired or been revoked.")
  let _ ← Prog.call (.touchSession sessionId)
  let staff ← Prog.call (.letIn staffId sessionId)
  Prog.orFail (staff.filter (·.status = .active)) (.unauthorized "Staff account is not active.")

/-- Errors of the guard that are not about authorisation are not shown. -/
def maskError {α : Type} : Error → Request α
  | .unauthorized message => .fail (.unauthorized message)
  | _ => .fail (.unauthorized "Invalid or expired staff token.")

/-- The guard of the staff's routes. -/
def canActivate (token : Token) : Request AuthenticatedStaff :=
  Prog.attempt (do
    let payload ← Prog.call (.verifyToken token)
    let staff ← validateSession payload.sub payload.sid
    pure
      { id := payload.sub, email := staff.email, role := staff.role, permissions := getStaffPermissions staff.role
        sessionId := payload.sid, mustChangePassword := staff.mustChangePassword })
  maskError

/-- Revoke a session. -/
def logout (sessionId : ℕ) : Request Unit := Prog.call (.revokeSession sessionId)

/-- Replace the own password, which closes all sessions of the account. -/
def changePassword (staffId : ℕ) (currentPassword newPassword : String) : Request Unit := do
  let found ← Prog.call (.findStaff staffId)
  let staff ← Prog.orFail found (.notFound "Staff account not found.")
  let valid ← Prog.call (.comparePassword currentPassword staff.passwordHash)
  Prog.require (valid = true) (.badRequest "Current password is incorrect.")
  Prog.require (currentPassword ≠ newPassword) (.badRequest "New password must differ from the current password.")
  let passwordHash ← Prog.call (.hashPassword newPassword)
  Prog.call (.changePassword staffId passwordHash)

/-- The actions on staff accounts that are logged. -/
def staffActions : List String := ["STAFF_USER_CREATED", "STAFF_USER_UPDATED", "STAFF_USER_DEACTIVATED"]

/-- Create an account with a password made up for it. -/
def create (dto : CreateStaffUserDto) (temporaryPassword : String) (createdById : ℕ) : Request ℕ := do
  let existing ← Prog.call (.findStaffByEmail (Auth.normalizedEmail dto.email))
  Prog.require (existing.isNone) (.conflict "A staff account with this email already exists.")
  let passwordHash ← Prog.call (.hashPassword temporaryPassword)
  let id ← Prog.call (.createStaff
    { email := Auth.normalizedEmail dto.email, firstName := dto.firstName, lastName := dto.lastName
      phoneNumber := dto.phoneNumber, passwordHash := passwordHash, role := dto.role
      createdById := some createdById })
  Prog.call (.audit createdById "STAFF_USER_CREATED" id)
  Prog.call (.sendTemplate (Auth.normalizedEmail dto.email))
  pure id

/-- The account under a key, which has to be there. -/
def findOne (id : ℕ) : Request StaffUser := do
  let staff ← Prog.call (.findStaff id)
  Prog.orFail staff (.notFound ("Staff user #" ++ toString id ++ " not found."))

/-- Change an account. -/
def update (id : ℕ) (dto : UpdateStaffUserDto) (actorId : ℕ) : Request StaffUser := do
  let _ ← findOne id
  let updated ← Prog.call (.updateStaff id dto)
  Prog.call (.audit actorId "STAFF_USER_UPDATED" id)
  pure updated

/-- Deactivate an account other than the own one, and revoke its sessions. -/
def deactivate (id actorId : ℕ) : Request Unit := do
  Prog.require (id ≠ actorId) (.badRequest "You cannot deactivate your own account.")
  let _ ← findOne id
  Prog.call (.deactivateStaff id)
  Prog.call (.revokeSessions id)
  Prog.call (.audit actorId "STAFF_USER_DEACTIVATED" id)

/-- Only some of the staff manage accounts. -/
def assertSuperAdmin (actor : AuthenticatedStaff) : Request Unit :=
  Prog.require (actor.role = .superAdmin) (.forbidden "Only SUPER_ADMIN can manage staff users.")

/-- A route of the staff: what it does is done for whom its guard has let in. -/
def guarded {α : Type} (token : Token) (handler : AuthenticatedStaff → Request α) : Request Unit := do
  let actor ← canActivate token
  let _ ← handler actor
  pure ()

/-- A route for those who manage accounts. -/
def managed {α : Type} (token : Token) (handler : AuthenticatedStaff → Request α) : Request Unit :=
  guarded token fun actor => do
    assertSuperAdmin actor
    handler actor

/-- A route of another module, which asks for permissions. -/
def permitted (token : Token) (required : Option (List String)) : Request Unit :=
  guarded token fun actor => do
    Prog.done (hasPermissions required (some actor))
    Prog.call (.handle actor.id required)

/-! ## The system -/

/-- The requests that can be made. -/
inductive StaffRequest : Request Unit → Prop
  | login (email password : String) : StaffRequest (login email password >>= fun _ => pure ())
  | logout (token : Token) : StaffRequest (guarded token fun actor => logout actor.sessionId)
  | changePassword (token : Token) (currentPassword newPassword : String) :
      StaffRequest (guarded token fun actor => changePassword actor.id currentPassword newPassword)
  | create (token : Token) (dto : CreateStaffUserDto) (temporaryPassword : String) :
      StaffRequest (managed token fun actor => create dto temporaryPassword actor.id)
  | findOne (token : Token) (id : ℕ) : StaffRequest (managed token fun _ => findOne id)
  | update (token : Token) (id : ℕ) (dto : UpdateStaffUserDto) :
      StaffRequest (managed token fun actor => update id dto actor.id)
  | deactivate (token : Token) (id : ℕ) : StaffRequest (managed token fun actor => deactivate id actor.id)
  | permitted (token : Token) (required : Option (List String)) : StaffRequest (permitted token required)

/-- Other code logs actions of its own. -/
structure Outside (s s' : State) : Prop where
  staffUser : s'.staffUser = s.staffUser
  staffSession : s'.staffSession = s.staffSession
  auditLog : ∀ i l, s'.auditLog.find i = some l → l.action ∈ staffActions → s.auditLog.find i = some l
  signed : s'.signed = s.signed
  admissions : s'.admissions = s.admissions
  handled : s'.handled = s.handled

/-- Any number of interleaved requests. -/
def staff : System Op Error State Env :=
  { machine with
    starts := StaffRequest
    background := Outside }

end Superstore.Staff
