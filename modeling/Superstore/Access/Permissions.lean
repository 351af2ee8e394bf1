import Superstore.Store.Schema

/-!
# Permissions

What a user may do is read off the unexpired roles and the active overrides whenever it is asked for.
An override that denies a permission removes its key from what has been granted. A permission is also
had through a wildcard, which such an override does not remove: it takes effect exactly where no
wildcard that covers the permission is left.
-/

namespace Superstore.Rbac

/-- A role with the keys of its permissions. -/
structure Role where
  name : String
  permissions : List String

/-- A role of a user, with the time at which it ends, if it does. -/
structure UserRole where
  role : Role
  expiresAt : Option ℕ := none

/-- An override of one permission, which grants or denies it. -/
structure PermissionOverride where
  key : String
  granted : Bool := true
  startsAt : ℕ
  expiresAt : Option ℕ := none

/-- A region that a role is limited to. -/
structure RegionScope where
  country : String := "NG"
  state : String
  city : Option String := none

/-- A user with everything that access depends on. -/
structure UserAccess where
  id : ℕ
  email : String
  roles : List UserRole := []
  permissionOverrides : List PermissionOverride := []
  merchantScopes : List ℕ := []
  regionScopes : List RegionScope := []

/-- A user as guards know one. -/
structure AuthenticatedUser where
  id : ℕ
  email : String
  roles : List String
  permissions : List String
  merchantScopeIds : List ℕ
  regionScopes : List RegionScope

/-- Whether something has not expired. -/
def Unexpired (now : ℕ) (expiresAt : Option ℕ) : Bool := expiresAt.all fun t => decide (now < t)

/-- The roles that a user has at a time. -/
def UserAccess.activeRoles (user : UserAccess) (now : ℕ) : List UserRole :=
  user.roles.filter fun assignment => Unexpired now assignment.expiresAt

/-- The overrides that a user has at a time. -/
def UserAccess.activeOverrides (user : UserAccess) (now : ℕ) : List PermissionOverride :=
  user.permissionOverrides.filter fun o => decide (o.startsAt ≤ now) && Unexpired now o.expiresAt

/-- What a user may do, from the roles and overrides that are active. -/
def buildUserContext (now : ℕ) (user : Option UserAccess) : Except Error AuthenticatedUser := do
  let user ← fromOption user (.notFound "User not found.")
  let roles := user.activeRoles now
  let overrides := user.activeOverrides now
  let rolePermissions := roles.flatMap fun assignment => assignment.role.permissions
  let grantedOverrides := (overrides.filter (·.granted)).map (·.key)
  let deniedOverrides := (overrides.filter fun o => !o.granted).map (·.key)
  let permissions := (rolePermissions ++ grantedOverrides).eraseDups.filter fun p => !deniedOverrides.contains p
  pure
    { id := user.id
      email := user.email
      roles := roles.map (·.role.name)
      permissions := permissions
      merchantScopeIds := user.merchantScopes
      regionScopes := user.regionScopes }

/-- The part of a permission before its first dot. -/
def domain (required : String) : String := .ofList (required.toList.takeWhile (· != '.'))

/-- The wildcard of the domain of a permission. -/
def wildcard (required : String) : String := domain required ++ ".*"

/-- Whether a user has a permission, under its own key or through a wildcard. -/
def hasPermission (user : AuthenticatedUser) (required : String) : Bool :=
  if user.permissions.contains required then true
  else user.permissions.contains (wildcard required) || user.permissions.contains "admin.*"

/-! ## Grants and denials -/

variable {now : ℕ} {user : UserAccess} {context : AuthenticatedUser} {required : String}

/-- An unexpired role or an active override grants a key. -/
def UserAccess.Grants (user : UserAccess) (now : ℕ) (key : String) : Prop :=
  (∃ assignment ∈ user.activeRoles now, key ∈ assignment.role.permissions) ∨
    ∃ o ∈ user.activeOverrides now, o.granted = true ∧ o.key = key

/-- An active override denies a key. -/
def UserAccess.Denies (user : UserAccess) (now : ℕ) (key : String) : Prop :=
  ∃ o ∈ user.activeOverrides now, o.granted = false ∧ o.key = key

/-- A user has the keys that are granted and not denied. -/
theorem mem_permissions (h : buildUserContext now (some user) = .ok context) (key : String) :
    key ∈ context.permissions ↔ user.Grants now key ∧ ¬user.Denies now key := by
  cases h
  simp [UserAccess.Grants, UserAccess.Denies, List.mem_eraseDups, and_assoc]

/-- A permission is had under one of three keys. -/
theorem hasPermission_iff :
    hasPermission context required = true ↔ required ∈ context.permissions ∨
      wildcard required ∈ context.permissions ∨ "admin.*" ∈ context.permissions := by
  simp [hasPermission]

/-- What is granted to a user and left by the overrides that deny. -/
def UserAccess.Leaves (user : UserAccess) (now : ℕ) (key : String) : Prop :=
  user.Grants now key ∧ ¬user.Denies now key

/-- An override that denies a permission takes it away, and where nothing is denied a permission is had if it is
granted under its own key or a wildcard. -/
structure DenyWins (user : UserAccess) (now : ℕ) (required : String) (context : AuthenticatedUser) : Prop where
  denied : user.Denies now required → hasPermission context required = false
  granted : (∀ key, ¬user.Denies now key) → (hasPermission context required = true ↔
    user.Grants now required ∨ user.Grants now (wildcard required) ∨ user.Grants now "admin.*")

/-- A user who is denied a permission does not have it, exactly where no wildcard that covers it is left. -/
theorem denyWins_iff (user : UserAccess) (now : ℕ) (required : String) :
    (∃ context, buildUserContext now (some user) = .ok context ∧ DenyWins user now required context) ↔
      (user.Denies now required → ¬user.Leaves now (wildcard required) ∧ ¬user.Leaves now "admin.*") := by
  obtain ⟨context, hcontext⟩ : ∃ context, buildUserContext now (some user) = .ok context := ⟨_, rfl⟩
  have hmem (key : String) : key ∈ context.permissions ↔ user.Leaves now key := mem_permissions hcontext key
  constructor
  · rintro ⟨context', hcontext', hwins⟩ hdenied
    obtain rfl : context = context' := Except.ok.inj (hcontext.symm.trans hcontext')
    have hlacks := hwins.denied hdenied
    rw [← Bool.not_eq_true, hasPermission_iff, hmem, hmem, hmem] at hlacks
    exact ⟨fun h => hlacks (.inr (.inl h)), fun h => hlacks (.inr (.inr h))⟩
  · intro hleft
    refine ⟨context, hcontext, fun hdenied => ?_, fun hnone => ?_⟩
    · rw [← Bool.not_eq_true, hasPermission_iff, hmem, hmem, hmem]
      rintro (h | h | h)
      · exact h.2 hdenied
      · exact (hleft hdenied).1 h
      · exact (hleft hdenied).2 h
    · simp [hasPermission_iff, hmem, UserAccess.Leaves, hnone]

/-! ## A denial that a wildcard outlives -/

/-- A user who may do everything with orders but read them. -/
def deniedReader : UserAccess where
  id := 1
  email := "a@x"
  roles := [{ role := { name := "ORDER_MANAGER", permissions := ["orders.*"] } }]
  permissionOverrides := [{ key := "orders.read", granted := false, startsAt := 0 }]

/-- A permission that is denied is had through a wildcard. -/
theorem deny_can_lose : ¬∀ (user : UserAccess) (now : ℕ) (required : String) (context : AuthenticatedUser),
    buildUserContext now (some user) = .ok context → DenyWins user now required context := by
  intro h
  have hwins := h deniedReader 1 "orders.read" _ rfl
  have hdenied : deniedReader.Denies 1 "orders.read" := by
    simp [UserAccess.Denies, UserAccess.activeOverrides, deniedReader, Unexpired]
  have hlacks := hwins.denied hdenied
  revert hlacks
  decide +kernel

end Superstore.Rbac
