import Superstore.Access.Permissions
import Superstore.Interleaving.Runs

/-!
# Sessions, one-time codes and passkeys

A login opens a session, whose refresh token is exchanged for the next one. A one-time code is checked
against a challenge that counts the failures, and a passkey answers a challenge that is kept for a
while. Every call of the database, of Redis and of the WebAuthn library is a step of its own; what it
takes at random and what the time is comes from outside.

Beside the tables is kept what the tables forget: the hashes that sessions have had, the refresh
tokens that have been signed and that have been accepted, the wrong codes that have been tried, the
codes that have been redeemed, and the logins that a challenge has led to.
-/

namespace Superstore.Auth

open Interleaving Relational
open Rbac (UserAccess AuthenticatedUser buildUserContext)

/-! ## Rows -/

/-- Whether an account may be used. -/
inductive UserStatus
  | active | inactive | suspended
  deriving DecidableEq

/-- What a one-time code is for. -/
inductive OtpPurpose
  | emailVerification | passwordReset
  deriving DecidableEq

/-- An account. -/
structure User where
  email : String
  passwordHash : Option String := none
  status : UserStatus := .active
  isEmailVerified : Bool := false

/-- The text of a hash, which is never empty. -/
abbrev Digest := { hex : String // hex ≠ "" }

/-- An identifier taken at random, which is never empty. -/
abbrev Identifier := { text : String // text ≠ "" }

/-- The identifier of the examples is not empty. -/
theorem identifier_ne_empty : "identifier" ≠ "" := by decide

/-- The first text of the examples is not empty. -/
theorem first_ne_empty : "first" ≠ "" := by decide

/-- The second text of the examples is not empty. -/
theorem second_ne_empty : "second" ≠ "" := by decide

/-- The third text of the examples is not empty. -/
theorem third_ne_empty : "third" ≠ "" := by decide

/-- A session. -/
structure AdminSession where
  userId : ℕ
  sessionTokenHash : Digest
  refreshRotatedAt : Option ℕ := none
  lastSeenAt : ℕ := 0
  expiresAt : ℕ
  revokedAt : Option ℕ := none

/-- A one-time code that has been sent. -/
structure OtpChallenge where
  userId : ℕ
  purpose : OtpPurpose
  target : String
  challengeKey : String
  codeHash : Digest
  expiresAt : ℕ
  attempts : ℕ := 0
  maxAttempts : ℕ := 5
  createdAt : ℕ := 0

/-- A passkey of an account. -/
structure PasskeyCredential where
  userId : ℕ
  credentialId : String
  publicKey : String
  counter : ℕ := 0
  lastUsedAt : Option ℕ := none

/-- What a refresh token says; those of earlier versions have no identifier. -/
structure RefreshToken where
  sub : ℕ
  sid : ℕ
  jti : Option Identifier
  deriving DecidableEq

/-- What a browser sends to answer a challenge. -/
structure AuthenticationResponse where
  id : String
  response : String

/-- A code that has been redeemed, with what was known of its challenge when it was. -/
structure Redemption where
  challengeId : ℕ
  attempts : ℕ
  guesses : ℕ
  maxAttempts : ℕ

/-- The tables of accounts, the keys in Redis, and what has happened to them. -/
structure State where
  user : Table User := Table.empty
  access : Table UserAccess := Table.empty
  adminSession : Table AdminSession := Table.empty
  otpChallenge : Table OtpChallenge := Table.empty
  passkeyCredential : Table PasskeyCredential := Table.empty
  loginChallenges : List String := []
  cooldowns : List (OtpPurpose × String) := []
  hashes : List Digest := []
  signed : List RefreshToken := []
  accepted : List RefreshToken := []
  guesses : List (ℕ × ℕ) := []
  redeemed : List Redemption := []
  issued : List String := []
  logins : List String := []

/-- The settings of the service, and the hash that it uses. -/
structure Settings where
  sha256 : String → Digest
  pepper : String := "pepper"
  otpTtlMs : ℕ := 600000
  maxAttempts : ℕ := 5
  refreshTokenTtlMs : ℕ := 2592000000

/-- What a call is told from outside. -/
structure Env where
  now : ℕ := 0
  identifier : Identifier := ⟨"identifier", identifier_ne_empty⟩
  otp : String := ""
  challengeKey : String := ""
  challenge : String := ""
  passwordHash : String := ""
  passwordMatches : Bool := true
  tokenValid : Bool := true
  mailFails : Bool := false
  verification : Except Error (Option ℕ) := .ok none

/-! ## Calls -/

/-- The calls of the authentication services; each is atomic. A rotation is told which token it is for, a new
session which challenge it answers, and the removal of a challenge what has been read of it. -/
inductive Op : Type → Type 1
  | now : Op ℕ
  | findUserByEmail (email : String) : Op (Option (ℕ × User))
  | findUser (id : ℕ) : Op (Option User)
  | comparePassword (password passwordHash : String) : Op Bool
  | hashPassword (password : String) : Op String
  | buildUserContext (userId : ℕ) : Op AuthenticatedUser
  | verifyRefreshToken (token : RefreshToken) : Op RefreshToken
  | signRefreshToken (token : RefreshToken) : Op RefreshToken
  | findSession (id : ℕ) : Op (Option AdminSession)
  | createSession (challenge : Option String) (userId : ℕ) : Op (ℕ × Identifier)
  | rotateSession (token : RefreshToken) (id userId : ℕ) (expectedSessionHash : Digest) : Op (ℕ × Identifier)
  | revokeSession (id : ℕ) : Op Unit
  | resetPassword (userId : ℕ) (passwordHash : String) : Op Unit
  | verifyEmail (userId : ℕ) : Op Unit
  | getCooldown (purpose : OtpPurpose) (email : String) : Op Bool
  | setCooldown (purpose : OtpPurpose) (email : String) : Op Unit
  | deleteChallenges (userId : ℕ) (purpose : OtpPurpose) : Op Unit
  | createChallenge (userId : ℕ) (purpose : OtpPurpose) (email : String) : Op (ℕ × String)
  | deleteChallenge (id : ℕ) : Op Unit
  | sendTemplate (email otp : String) : Op Unit
  | findChallenge (userId : ℕ) (email : String) (purpose : OtpPurpose) (otp : String) :
      Op (Option (ℕ × OtpChallenge))
  | countFailure (id : ℕ) : Op Unit
  | redeemChallenge (id : ℕ) (challenge : OtpChallenge) : Op ℕ
  | setLoginChallenge : Op String
  | getLoginChallenge (challenge : String) : Op Bool
  | deleteLoginChallenge (challenge : String) : Op Unit
  | findCredential (credentialId : String) : Op (Option (ℕ × PasskeyCredential × User))
  | verifyAuthenticationResponse (response : AuthenticationResponse) (challenge : String)
      (credential : PasskeyCredential) : Op (Option ℕ)
  | updateCredential (id counter : ℕ) : Op Unit

variable (cfg : Settings)

/-- The hash of the identifier of a refresh token. -/
def hashRefreshIdentifier (identifier : Identifier) : Digest := cfg.sha256 identifier.1

/-- The hash of a code under the key of its challenge. -/
def hashOtp (challengeKey otp : String) : Digest := cfg.sha256 (cfg.pepper ++ ":" ++ challengeKey ++ ":" ++ otp)

/-- The challenge that was made last. -/
def newest : List (ℕ × OtpChallenge) → Option (ℕ × OtpChallenge)
  | [] => none
  | c :: rest =>
    match newest rest with
    | some d => some (if c.2.createdAt < d.2.createdAt then d else c)
    | none => some c

/-- The challenge that a code is checked against. -/
def openChallenge (now userId : ℕ) (email : String) (purpose : OtpPurpose) (s : State) :
    Option (ℕ × OtpChallenge) :=
  newest (s.otpChallenge.many fun _ c =>
    c.userId == userId && c.purpose == purpose && c.target == email && decide (now < c.expiresAt))

/-- How many wrong codes have been tried against a challenge. -/
def State.tried (s : State) (id : ℕ) : ℕ := s.guesses.countP (·.1 = id)

/-- The sessions that a rotation can change: the one of a user that has not been revoked or expired and still
has the hash. -/
def rotatable (now id userId : ℕ) (expectedSessionHash : Digest) (i : ℕ) (r : AdminSession) : Bool :=
  i == id && r.userId == userId && r.sessionTokenHash == expectedSessionHash && r.revokedAt.isNone &&
    decide (now < r.expiresAt)

/-- A session that has been rotated. -/
def AdminSession.rotated (now : ℕ) (hash : Digest) (r : AdminSession) : AdminSession :=
  { r with
    sessionTokenHash := hash
    refreshRotatedAt := some now
    lastSeenAt := now
    expiresAt := now + cfg.refreshTokenTtlMs }

/-- A session that has just been opened. -/
def opened (now userId : ℕ) (hash : Digest) : AdminSession where
  userId := userId
  sessionTokenHash := hash
  refreshRotatedAt := some now
  lastSeenAt := now
  expiresAt := now + cfg.refreshTokenTtlMs

/-- A challenge that has just been made. -/
def asked (e : Env) (userId : ℕ) (purpose : OtpPurpose) (email : String) : OtpChallenge where
  userId := userId
  purpose := purpose
  target := email
  challengeKey := e.challengeKey
  codeHash := hashOtp cfg e.challengeKey e.otp
  expiresAt := e.now + cfg.otpTtlMs
  maxAttempts := cfg.maxAttempts
  createdAt := e.now

/-- What a call does. -/
def exec : {α : Type} → Op α → Env → State → Except Error α × State
  | _, .now, e, s => (.ok e.now, s)
  | _, .findUserByEmail email, _, s => (.ok (s.user.first fun _ u => u.email == email), s)
  | _, .findUser id, _, s => (.ok (s.user.find id), s)
  | _, .comparePassword _ _, e, s => (.ok e.passwordMatches, s)
  | _, .hashPassword _, e, s => (.ok e.passwordHash, s)
  | _, .buildUserContext userId, e, s => (buildUserContext e.now (s.access.find userId), s)
  | _, .verifyRefreshToken token, e, s =>
    if e.tokenValid ∧ token ∈ s.signed then (.ok token, s) else (.error (.provider "jwt"), s)
  | _, .signRefreshToken token, _, s => (.ok token, { s with signed := token :: s.signed })
  | _, .findSession id, _, s => (.ok (s.adminSession.find id), s)
  | _, .createSession challenge userId, e, s =>
    if (s.adminSession.first fun _ r => r.sessionTokenHash == hashRefreshIdentifier cfg e.identifier).isSome then
      (.error .uniqueViolation, s)
    else
      (.ok (s.adminSession.next, e.identifier),
        { s with
          adminSession := s.adminSession.create (opened cfg e.now userId (hashRefreshIdentifier cfg e.identifier))
          hashes := hashRefreshIdentifier cfg e.identifier :: s.hashes
          logins := challenge.toList ++ s.logins })
  | _, .rotateSession token id userId expectedSessionHash, e, s =>
    if (s.adminSession.first (rotatable e.now id userId expectedSessionHash)).isNone then (.ok (0, e.identifier), s)
    else if (s.adminSession.first fun _ r => r.sessionTokenHash ==
      hashRefreshIdentifier cfg e.identifier).isSome then
      (.error .uniqueViolation, s)
    else
      (.ok (1, e.identifier),
        { s with
          adminSession := s.adminSession.updateMany (rotatable e.now id userId expectedSessionHash)
            (AdminSession.rotated cfg e.now (hashRefreshIdentifier cfg e.identifier))
          hashes := hashRefreshIdentifier cfg e.identifier :: s.hashes
          accepted := token :: s.accepted })
  | _, .revokeSession id, e, s =>
    (.ok (), { s with adminSession := s.adminSession.update id fun r => { r with revokedAt := some e.now } })
  | _, .resetPassword userId passwordHash, e, s =>
    if (s.user.find userId).isSome then
      (.ok (),
        { s with
          user := s.user.update userId fun u => { u with passwordHash := some passwordHash }
          adminSession := s.adminSession.updateMany (fun _ r => r.userId == userId && r.revokedAt.isNone)
            fun r => { r with revokedAt := some e.now } })
    else (.error .recordNotFound, s)
  | _, .verifyEmail userId, _, s =>
    if (s.user.find userId).isSome then
      (.ok (), { s with user := s.user.update userId fun u => { u with isEmailVerified := true } })
    else (.error .recordNotFound, s)
  | _, .getCooldown purpose email, _, s => (.ok (s.cooldowns.contains (purpose, email)), s)
  | _, .setCooldown purpose email, _, s => (.ok (), { s with cooldowns := (purpose, email) :: s.cooldowns })
  | _, .deleteChallenges userId purpose, _, s =>
    (.ok (), { s with
      otpChallenge := s.otpChallenge.deleteMany fun _ c => c.userId == userId && c.purpose == purpose })
  | _, .createChallenge userId purpose email, e, s =>
    if (s.otpChallenge.first fun _ c => c.challengeKey == e.challengeKey).isSome then (.error .uniqueViolation, s)
    else
      (.ok (s.otpChallenge.next, e.otp),
        { s with otpChallenge := s.otpChallenge.create (asked cfg e userId purpose email) })
  | _, .deleteChallenge id, _, s =>
    if (s.otpChallenge.find id).isSome then
      (.ok (), { s with otpChallenge := s.otpChallenge.deleteMany fun i _ => i == id })
    else (.error .recordNotFound, s)
  | _, .sendTemplate _ _, e, s => if e.mailFails then (.error (.provider "mail"), s) else (.ok (), s)
  | _, .findChallenge userId email purpose otp, e, s =>
    match openChallenge e.now userId email purpose s with
    | some (id, c) =>
      (.ok (some (id, c)),
        if c.attempts < c.maxAttempts ∧ hashOtp cfg c.challengeKey otp ≠ c.codeHash then
          { s with guesses := (id, c.maxAttempts) :: s.guesses }
        else s)
    | none => (.ok none, s)
  | _, .countFailure id, _, s =>
    if (s.otpChallenge.find id).isSome then
      (.ok (), { s with otpChallenge := s.otpChallenge.update id fun c => { c with attempts := c.attempts + 1 } })
    else (.error .recordNotFound, s)
  | _, .redeemChallenge id _, _, s =>
    match s.otpChallenge.find id with
    | some c =>
      (.ok 1,
        { s with
          otpChallenge := s.otpChallenge.deleteMany fun i _ => i == id
          redeemed := ⟨id, c.attempts, s.tried id, c.maxAttempts⟩ :: s.redeemed })
    | none => (.ok 0, s)
  | _, .setLoginChallenge, e, s =>
    (.ok e.challenge,
      { s with
        loginChallenges := e.challenge :: s.loginChallenges.filter (· != e.challenge)
        issued := e.challenge :: s.issued })
  | _, .getLoginChallenge challenge, _, s => (.ok (s.loginChallenges.contains challenge), s)
  | _, .deleteLoginChallenge challenge, _, s =>
    (.ok (), { s with loginChallenges := s.loginChallenges.filter (· != challenge) })
  | _, .findCredential credentialId, _, s =>
    (.ok do
      let stored ← s.passkeyCredential.first fun _ c => c.credentialId == credentialId
      let user ← s.user.find stored.2.userId
      pure (stored.1, stored.2, user), s)
  | _, .verifyAuthenticationResponse _ _ _, e, s => (e.verification, s)
  | _, .updateCredential id counter, e, s =>
    if (s.passkeyCredential.find id).isSome then
      (.ok (), { s with passkeyCredential := s.passkeyCredential.update id fun c =>
        { c with counter := counter, lastUsedAt := some e.now } })
    else (.error .recordNotFound, s)

/-- The calls, run on the tables and the cache. -/
def machine : Machine Op Error State Env where
  exec := exec cfg

/-! ## Requests -/

/-- A program over these calls. -/
abbrev Request := Prog Op Error

/-- The session that tokens are issued for: a new one, or that of a token, which is rotated. -/
def currentSession (userId : ℕ) (challenge : Option String) :
    Option (RefreshToken × ℕ × Digest) → Request (ℕ × Identifier)
  | some (token, existingSessionId, expectedSessionHash) => do
    let (count, refreshIdentifier) ← Prog.call (.rotateSession token existingSessionId userId expectedSessionHash)
    Prog.require (count = 1) (.unauthorized "Refresh token was already rotated or revoked.")
    let session ← Prog.call (.findSession existingSessionId)
    let _ ← Prog.orFail session .recordNotFound
    pure (existingSessionId, refreshIdentifier)
  | none => Prog.call (.createSession challenge userId)

/-- Open a session, or rotate the one of a token, and sign its next refresh token. -/
def issueTokens (userId : ℕ) (challenge : Option String) (existing : Option (RefreshToken × ℕ × Digest)) :
    Request (RefreshToken × ℕ) := do
  let (sessionId, refreshIdentifier) ← currentSession userId challenge existing
  let refreshToken ← Prog.call
    (.signRefreshToken { sub := userId, sid := sessionId, jti := some refreshIdentifier })
  let _ ← Prog.call (.buildUserContext userId)
  pure (refreshToken, sessionId)

/-- Open a session for a user who has been recognised in another way. -/
def createSessionForUser (challenge : Option String) (userId : ℕ) : Request (RefreshToken × ℕ) := do
  let user ← Prog.call (.findUser userId)
  Prog.require (user.any (·.status = .active)) (.unauthorized "Account is not active.")
  issueTokens userId challenge none

/-- Whether a session still has the identifier of a token; without an identifier, whether it has never
been rotated. -/
def refreshIdentifierMatches (payload : RefreshToken) (session : AdminSession) : Bool :=
  match payload.jti with
  | some jti => session.sessionTokenHash == hashRefreshIdentifier cfg jti
  | none => session.refreshRotatedAt.isNone

/-- Errors of a refresh that are not about authorisation are not shown. -/
def maskError {α : Type} : Error → Request α
  | .unauthorized message => .fail (.unauthorized message)
  | _ => .fail (.unauthorized "Invalid or expired refresh session.")

/-- The session of a refresh token, where a new token may be issued for it. -/
def refreshSession (token : RefreshToken) : Request (RefreshToken × AdminSession) :=
  Prog.attempt (do
    let payload ← Prog.call (.verifyRefreshToken token)
    let session ← Prog.call (.findSession payload.sid)
    let now ← Prog.call .now
    let session ← Prog.orFail
      (session.filter fun session => session.userId == payload.sub &&
        refreshIdentifierMatches cfg payload session &&
        session.revokedAt.isNone && decide (now < session.expiresAt))
      (.unauthorized "Session has expired or been revoked.")
    let user ← Prog.call (.findUser session.userId)
    Prog.require (user.any (·.status = .active)) (.unauthorized "Account is not active.")
    pure (payload, session))
  maskError

/-- Exchange a refresh token for the next one. The source returns the promise of `issueTokens` out of its `try`
without waiting for it, so that errors of `issueTokens` are shown as they are. -/
def refreshToken (token : RefreshToken) : Request (RefreshToken × ℕ) := do
  let (payload, session) ← refreshSession cfg token
  issueTokens session.userId none (some (payload, payload.sid, session.sessionTokenHash))

/-- Make a one-time code and send it. -/
def createAndSendOtp (userId : ℕ) (email : String) (purpose : OtpPurpose) : Request Unit := do
  let cooldown ← Prog.call (.getCooldown purpose email)
  Prog.require (cooldown = false) (.tooManyRequests "Please wait before requesting another OTP.")
  let _ ← Prog.call (.deleteChallenges userId purpose)
  let (id, otp) ← Prog.call (.createChallenge userId purpose email)
  let _ ← Prog.call (.setCooldown purpose email)
  Prog.attempt (Prog.call (.sendTemplate email otp)) fun err => do
    let _ ← Prog.call (.deleteChallenge id)
    Prog.fail err

/-- Check a one-time code, and use it up. -/
def consumeOtp (userId : ℕ) (email : String) (purpose : OtpPurpose) (otp : String) : Request Unit := do
  let challenge ← Prog.call (.findChallenge userId email purpose otp)
  let (id, challenge) ← Prog.orFail challenge (.badRequest "OTP is invalid or has expired.")
  Prog.require (challenge.attempts < challenge.maxAttempts)
    (.tooManyRequests "OTP attempt limit reached. Request a new code.")
  if hashOtp cfg challenge.challengeKey otp = challenge.codeHash then do
    let deleted ← Prog.call (.redeemChallenge id challenge)
    Prog.require (deleted = 1) (.badRequest "OTP is invalid or has expired.")
  else do
    let _ ← Prog.call (.countFailure id)
    Prog.fail (.badRequest "OTP is invalid or has expired.")

/-- An address as accounts keep it. -/
def normalizedEmail (email : String) : String := (trim email).toLower

/-- Log in with a password. -/
def login (email password : String) : Request Unit := do
  let found ← Prog.call (.findUserByEmail (normalizedEmail email))
  let (id, user, passwordHash) ← Prog.orFail
    (found.bind fun u => u.2.passwordHash.map fun passwordHash => (u.1, u.2, passwordHash))
    (.unauthorized "Invalid credentials.")
  let validPassword ← Prog.call (.comparePassword password passwordHash)
  Prog.require (validPassword = true ∧ user.status = .active)
    (.unauthorized "Invalid credentials or inactive account.")
  if user.isEmailVerified then do
    let _ ← issueTokens id none none
    pure ()
  else do
    createAndSendOtp id (normalizedEmail email) .emailVerification
    Prog.fail (.unauthorized "Email verification is required. A new verification code has been sent.")

/-- Confirm an address with the code sent to it. -/
def verifyEmailOtp (email otp : String) : Request Unit := do
  let found ← Prog.call (.findUserByEmail (normalizedEmail email))
  let (id, _) ← Prog.orFail found (.badRequest "Invalid verification request.")
  consumeOtp cfg id (normalizedEmail email) .emailVerification otp
  Prog.call (.verifyEmail id)

/-- Send another code to an address that is not confirmed yet. -/
def resendEmailOtp (email : String) : Request Unit := do
  let found ← Prog.call (.findUserByEmail (normalizedEmail email))
  match found with
  | some (id, user) =>
    if user.isEmailVerified then pure ()
    else (createAndSendOtp id (normalizedEmail email) .emailVerification).attempt fun _ => pure ()
  | none => pure ()

/-- Send a code to reset a password with, and tell nobody whether there is an account. -/
def forgotPassword (email : String) : Request Unit := do
  let found ← Prog.call (.findUserByEmail (normalizedEmail email))
  match found with
  | some (id, user) =>
    if user.status = .active then
      (createAndSendOtp id (normalizedEmail email) .passwordReset).attempt fun _ => pure ()
    else pure ()
  | none => pure ()

/-- Replace a password with the code sent to its address. -/
def resetPassword (email otp password : String) : Request Unit := do
  let found ← Prog.call (.findUserByEmail (normalizedEmail email))
  let (id, _) ← Prog.orFail (found.filter (·.2.status = .active)) (.badRequest "Invalid password reset request.")
  consumeOtp cfg id (normalizedEmail email) .passwordReset otp
  let passwordHash ← Prog.call (.hashPassword password)
  Prog.call (.resetPassword id passwordHash)

/-- Revoke a session. -/
def logout (sessionId : ℕ) : Request Unit := Prog.call (.revokeSession sessionId)

/-- Make a challenge for a login with a passkey. -/
def authenticationOptions : Request Unit := do
  let _ ← Prog.call .setLoginChallenge
  pure ()

/-- Log in with the answer of a passkey to a challenge. -/
def verifyAuthentication (challenge : String) (response : AuthenticationResponse) : Request Unit := do
  let pending ← Prog.call (.getLoginChallenge challenge)
  Prog.require (pending = true) (.unauthorized "Passkey login challenge expired.")
  let found ← Prog.call (.findCredential response.id)
  let (id, stored, user) ← Prog.orFail found (.notFound "Passkey is not registered.")
  Prog.require (user.status = .active) (.unauthorized "Account is not active.")
  let result ← Prog.call (.verifyAuthenticationResponse response challenge stored)
  let newCounter ← Prog.orFail result (.unauthorized "Passkey login could not be verified.")
  let _ ← Prog.call (.updateCredential id newCounter)
  let _ ← Prog.call (.deleteLoginChallenge challenge)
  let _ ← createSessionForUser (some challenge) stored.userId
  pure ()

/-! ## The system -/

/-- The requests that can be made. -/
inductive AuthRequest : Request Unit → Prop
  | login (email password : String) : AuthRequest (login email password)
  | otherLogin (userId : ℕ) : AuthRequest (createSessionForUser none userId >>= fun _ => pure ())
  | refreshToken (token : RefreshToken) : AuthRequest (refreshToken cfg token >>= fun _ => pure ())
  | logout (sessionId : ℕ) : AuthRequest (logout sessionId)
  | verifyEmailOtp (email otp : String) : AuthRequest (verifyEmailOtp cfg email otp)
  | resendEmailOtp (email : String) : AuthRequest (resendEmailOtp email)
  | forgotPassword (email : String) : AuthRequest (forgotPassword email)
  | resetPassword (email otp password : String) : AuthRequest (resetPassword cfg email otp password)
  | authenticationOptions : AuthRequest authenticationOptions
  | verifyAuthentication (challenge : String) (response : AuthenticationResponse) :
      AuthRequest (verifyAuthentication challenge response)

/-- Accounts, permissions and credentials change in any way, sessions are revoked, and keys in Redis expire. -/
structure Outside (s s' : State) : Prop where
  adminSession : ∃ (revoked : ℕ → AdminSession → Bool) (now : ℕ),
    s'.adminSession = s.adminSession.updateMany revoked fun r => { r with revokedAt := some now }
  otpChallenge : s'.otpChallenge = s.otpChallenge
  loginChallenges : s'.loginChallenges.Sublist s.loginChallenges
  hashes : s'.hashes = s.hashes
  signed : s'.signed = s.signed
  accepted : s'.accepted = s.accepted
  guesses : s'.guesses = s.guesses
  redeemed : s'.redeemed = s.redeemed
  issued : s'.issued = s.issued
  logins : s'.logins = s.logins

/-- Any number of interleaved requests. -/
def auth : System Op Error State Env :=
  { machine cfg with
    starts := AuthRequest cfg
    background := Outside }

/-! ## What calls leave alone -/

/-- The calls that change sessions, or what is known of their tokens. -/
def Op.ofSessions : {α : Type} → Op α → Bool
  | _, .createSession _ _ | _, .rotateSession _ _ _ _ | _, .revokeSession _ | _, .resetPassword _ _
  | _, .signRefreshToken _ => true
  | _, _ => false

/-- The calls that change challenges for codes, or what is known of them. -/
def Op.ofCodes : {α : Type} → Op α → Bool
  | _, .deleteChallenges _ _ | _, .createChallenge _ _ _ | _, .deleteChallenge _ | _, .findChallenge _ _ _ _
  | _, .countFailure _ | _, .redeemChallenge _ _ => true
  | _, _ => false

/-- The calls that change challenges for logins, or what is known of them. -/
def Op.ofLogins : {α : Type} → Op α → Bool
  | _, .createSession _ _ | _, .setLoginChallenge | _, .deleteLoginChallenge _ => true
  | _, _ => false

/-- Nothing has happened to sessions and their tokens. -/
structure SessionsKept (s s' : State) : Prop where
  adminSession : s'.adminSession = s.adminSession
  hashes : s'.hashes = s.hashes
  signed : s'.signed = s.signed
  accepted : s'.accepted = s.accepted

/-- Nothing has happened to challenges for codes. -/
structure CodesKept (s s' : State) : Prop where
  otpChallenge : s'.otpChallenge = s.otpChallenge
  guesses : s'.guesses = s.guesses
  redeemed : s'.redeemed = s.redeemed

/-- Nothing has happened to challenges for logins. -/
structure LoginsKept (s s' : State) : Prop where
  loginChallenges : s'.loginChallenges = s.loginChallenges
  issued : s'.issued = s.issued
  logins : s'.logins = s.logins

variable {cfg} {α : Type} {op : Op α}

/-- A call that is not about sessions leaves them as they are. -/
theorem exec_sessionsKept (h : op.ofSessions = false) (e : Env) (s : State) :
    SessionsKept s (exec cfg op e s).2 := by
  cases op <;> first | (cases h; done) | (simp only [exec]; (repeat' split) <;> exact ⟨rfl, rfl, rfl, rfl⟩)

/-- A call that is not about codes leaves them as they are. -/
theorem exec_codesKept (h : op.ofCodes = false) (e : Env) (s : State) : CodesKept s (exec cfg op e s).2 := by
  cases op <;> first | (cases h; done) | (simp only [exec]; (repeat' split) <;> exact ⟨rfl, rfl, rfl⟩)

/-- A call that is not about logins leaves them as they are. -/
theorem exec_loginsKept (h : op.ofLogins = false) (e : Env) (s : State) : LoginsKept s (exec cfg op e s).2 := by
  cases op <;> first | (cases h; done) | (simp only [exec]; (repeat' split) <;> exact ⟨rfl, rfl, rfl⟩)

/-- The calls before which something has to be found out: that a token belongs to a session, or that a
code is right. -/
def Op.asks : {α : Type} → Op α → Bool
  | _, .rotateSession _ _ _ _ | _, .signRefreshToken _ | _, .redeemChallenge _ _ => true
  | _, _ => false

/-- Sending a code needs no facts, and has nothing to do with sessions. -/
theorem createAndSendOtp_all (userId : ℕ) (email : String) (purpose : OtpPurpose) :
    (createAndSendOtp userId email purpose).All fun _ op => op.asks = false ∧ op.ofLogins = false := by
  refine .bind ((Prog.all_call _).mpr ⟨rfl, rfl⟩) fun cooldown => .bind (Prog.all_require _ _) fun _ => ?_
  refine .bind ((Prog.all_call _).mpr ⟨rfl, rfl⟩) fun _ => .bind ((Prog.all_call _).mpr ⟨rfl, rfl⟩) fun code => ?_
  refine .bind ((Prog.all_call _).mpr ⟨rfl, rfl⟩) fun _ => .attempt ((Prog.all_call _).mpr ⟨rfl, rfl⟩) fun err => ?_
  exact .bind ((Prog.all_call _).mpr ⟨rfl, rfl⟩) fun _ => Prog.all_fail err

/-- Checking a code has nothing to do with sessions. -/
theorem consumeOtp_all (userId : ℕ) (email : String) (purpose : OtpPurpose) (otp : String) :
    (consumeOtp cfg userId email purpose otp).All fun _ op => op.ofSessions = false ∧ op.ofLogins = false := by
  refine .bind ((Prog.all_call _).mpr ⟨rfl, rfl⟩) fun found => .bind (Prog.all_orFail _ _) fun challenge => ?_
  refine .bind (Prog.all_require _ _) fun _ => ?_
  split
  · exact .bind ((Prog.all_call _).mpr ⟨rfl, rfl⟩) fun deleted => Prog.all_require _ _
  · exact .bind ((Prog.all_call _).mpr ⟨rfl, rfl⟩) fun _ => Prog.all_fail _

/-- Every request makes sure of what is needed when its parts do. -/
theorem request_ready {C : Contract Op State Env}
    (hknown : ∀ {β : Type} (op : Op β), op.asks = false → ∀ s, C.known op s)
    (hissue : ∀ userId challenge s, C.Ready (machine cfg) (issueTokens userId challenge none) s)
    (hrefresh : ∀ token s, C.Ready (machine cfg) (refreshToken cfg token) s)
    (hconsume : ∀ userId email purpose otp s, C.Ready (machine cfg) (consumeOtp cfg userId email purpose otp) s)
    {p : Request Unit} (h : AuthRequest cfg p) (s : State) : C.Ready (machine cfg) p s := by
  have hnothing {β : Type} (op : Op β) (hop : op.asks = false) (s : State) :
      ∀ s₁, C.guar s s₁ → C.inv s₁ → C.known op s₁ := fun s₁ _ _ => hknown op hop s₁
  have hsend (userId : ℕ) (email : String) (purpose : OtpPurpose) (s : State) :
      C.Ready (machine cfg) (createAndSendOtp userId email purpose) s :=
    Contract.informed_of_all ((createAndSendOtp_all userId email purpose).imp fun _ op hop => hknown op hop.1) s
  have hopen (challenge : Option String) (userId : ℕ) (s : State) :
      C.Ready (machine cfg) (createSessionForUser challenge userId) s :=
    .then (hnothing _ rfl _) fun _ s₁ _ _ => .require_bind fun _ => hissue userId challenge s₁
  cases h with
  | login email password =>
    refine .then (hnothing _ rfl _) fun found _ _ _ => .orFail_bind fun user _ => ?_
    refine .then (hnothing _ rfl _) fun valid s₁ _ _ => .require_bind fun _ => ?_
    split
    · exact .bind (hissue _ _ s₁) fun _ _ => trivial
    · exact .bind (hsend _ _ _ s₁) fun _ _ => trivial
  | otherLogin userId => exact .bind (hopen none userId s) fun _ _ => trivial
  | refreshToken token => exact .bind (hrefresh token s) fun _ _ => trivial
  | logout sessionId => exact .call (hnothing _ rfl _)
  | verifyEmailOtp email otp =>
    refine .then (hnothing _ rfl _) fun found s₁ _ _ => .orFail_bind fun user _ => ?_
    exact .bind (hconsume _ _ _ _ s₁) fun _ _ => .call (hnothing _ rfl _)
  | resendEmailOtp email =>
    refine .then (hnothing _ rfl _) fun found s₁ _ _ => ?_
    cases found with
    | none => exact trivial
    | some user =>
      change C.Ready (machine cfg) (if user.2.isEmailVerified then _ else _) s₁
      split
      · exact trivial
      · exact .attempt (hsend _ _ _ s₁) fun _ _ => trivial
  | forgotPassword email =>
    refine .then (hnothing _ rfl _) fun found s₁ _ _ => ?_
    cases found with
    | none => exact trivial
    | some user =>
      change C.Ready (machine cfg) (if user.2.status = .active then _ else _) s₁
      split
      · exact .attempt (hsend _ _ _ s₁) fun _ _ => trivial
      · exact trivial
  | resetPassword email otp password =>
    refine .then (hnothing _ rfl _) fun found s₁ _ _ => .orFail_bind fun user _ => ?_
    refine .bind (hconsume _ _ _ _ s₁) fun _ s₂ => ?_
    exact .then (hnothing _ rfl _) fun _ _ _ _ => .call (hnothing _ rfl _)
  | authenticationOptions => exact .then (hnothing _ rfl _) fun _ _ _ _ => trivial
  | verifyAuthentication challenge response =>
    refine .then (hnothing _ rfl _) fun _ _ _ _ => .require_bind fun _ => ?_
    refine .then (hnothing _ rfl _) fun _ _ _ _ => .orFail_bind fun stored _ => .require_bind fun _ => ?_
    refine .then (hnothing _ rfl _) fun _ _ _ _ => .orFail_bind fun counter _ => ?_
    refine .then (hnothing _ rfl _) fun _ _ _ _ => .then (hnothing _ rfl _) fun _ s₁ _ _ => ?_
    exact .bind (hopen _ _ s₁) fun _ _ => trivial

/-! ## A small service -/

/-- Settings with a hash that is easy to read, and a single attempt. -/
def plainSettings : Settings where
  sha256 text := ⟨"#" ++ text, by simp⟩
  maxAttempts := 1

/-- A customer without any session. -/
def oneUser : State where
  user := Table.empty.create { email := "a@superstore.example", isEmailVerified := true }
  access := Table.empty.create { id := 1, email := "a@superstore.example" }

end Superstore.Auth
