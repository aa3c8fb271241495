/-
# Mediation by the guard

Every request passes the same stages in the same order: credentials, their window,
the names, the store, the matrix of the role.  A request is granted exactly when it
passes them all, and else the answer is the error of the first stage that it fails;
a request that fails before the store is asked is answered without it.  The store
may be any: nothing is assumed of what it answers.
-/
import AccessControl.Guard
import AccessControl.Proofs.Steps
import Mathlib.Tactic.SplitIfs

namespace AccessControl

/-! ## The window of the claims -/

namespace AccessClaims

variable {claims : AccessClaims} {now : Instant}

/-- The window of the claims holds an instant: its start belongs to it, its end does not. -/
def Holds (claims : AccessClaims) (now : Instant) : Prop :=
  claims.issuedAt ≤ now ∧ now < claims.expiresAt

/-- What is wrong with the window of the claims at an instant; an empty window comes first. -/
def Refused (claims : AccessClaims) (now : Instant) : TokenError → Prop
  | .invalidTimeWindow => claims.expiresAt ≤ claims.issuedAt
  | .notYetValid => claims.issuedAt < claims.expiresAt ∧ now < claims.issuedAt
  | .expired => claims.issuedAt < claims.expiresAt ∧ claims.expiresAt ≤ now

theorem validate_eq_ok_iff : claims.validate now = .ok () ↔ claims.Holds now := by
  unfold validate Holds
  simp only [Instant.le_def, Instant.lt_def]
  split_ifs with hempty hearly hlate <;> simp only [false_iff, true_iff] <;> omega

theorem validate_eq_error_iff {error : TokenError} :
    claims.validate now = .error error ↔ claims.Refused now error := by
  unfold validate Refused
  simp only [Instant.le_def, Instant.lt_def]
  split_ifs with hempty hearly hlate <;> cases error <;>
    simp only [reduceCtorEq, Except.error.injEq, false_iff, true_iff] <;> omega

end AccessClaims

/-! ## The names in the request -/

namespace Permission

variable {resource action : String} {p : Permission}

/-- The two names are those of a permission. -/
def Named (p : Permission) (resource action : String) : Prop :=
  p.resource.name = resource ∧ p.action.name = action

/-- What is wrong with two names; the resource comes first. -/
inductive Misnamed (resource action : String) : InvalidRequest → Prop
  | resource :
      (∀ r : Resource, r.name ≠ resource) → Misnamed resource action (.unknownResource resource)
  | action {r : Resource} :
      r.name = resource → (∀ a : Action, a.name ≠ action) →
      Misnamed resource action (.unknownAction action)

theorem ofNames_eq_ok_iff : ofNames resource action = .ok p ↔ p.Named resource action := by
  obtain ⟨r, a⟩ := p
  unfold ofNames Named
  cases hresource : Resource.ofName? resource with
  | none =>
    have hr : r.name ≠ resource := by
      rw [Ne, ← Resource.ofName?_eq_some_iff, hresource]
      simp
    simp [hr]
  | some found =>
    rw [← Resource.ofName?_eq_some_iff, ← Action.ofName?_eq_some_iff, hresource]
    cases Action.ofName? action with
    | none => simp
    | some named => simp

theorem ofNames_eq_error_iff {error : AuthorizationError} :
    ofNames resource action = .error error ↔
      ∃ cause, Misnamed resource action cause ∧ error = .invalidRequest cause := by
  have hresource : Resource.ofName? resource = none ↔ ∀ r : Resource, r.name ≠ resource := by
    simp only [Option.eq_none_iff_forall_ne_some, Ne, Resource.ofName?_eq_some_iff]
  have haction : Action.ofName? action = none ↔ ∀ a : Action, a.name ≠ action := by
    simp only [Option.eq_none_iff_forall_ne_some, Ne, Action.ofName?_eq_some_iff]
  unfold ofNames
  constructor
  · intro h
    cases hr : Resource.ofName? resource with
    | none =>
      rw [hr] at h
      cases h
      exact ⟨_, .resource (hresource.1 hr), rfl⟩
    | some r =>
      rw [hr] at h
      dsimp only at h
      cases ha : Action.ofName? action with
      | none =>
        rw [ha] at h
        cases h
        exact ⟨_, .action (Resource.ofName?_eq_some_iff.1 hr) (haction.1 ha), rfl⟩
      | some a =>
        rw [ha] at h
        cases h
  · rintro ⟨cause, hcause, rfl⟩
    cases hcause with
    | resource hnone => rw [hresource.2 hnone]
    | action hr hnone => rw [Resource.ofName?_eq_some_iff.2 hr, haction.2 hnone]

/-- Two names are those of a permission, or something is wrong with them. -/
theorem exists_ofNames_eq_error (h : ∀ p : Permission, ¬ p.Named resource action) :
    ∃ error, ofNames resource action = .error error := by
  cases hnames : ofNames resource action with
  | error error => exact ⟨error, rfl⟩
  | ok p => exact absurd (ofNames_eq_ok_iff.1 hnames) (h p)

end Permission

namespace Guard

/-! ## The stages of a request -/

variable {σ : Type} [IdentityStore σ] {store : σ} {principalId : PrincipalId} {role : Role}
  {permission : Permission} {claims : Option AccessClaims} {now : Instant}
  {resource action : String} {g : Grant} {error : AccessError}

theorem grant_eq_ok_iff :
    grant principalId role permission = .ok g ↔
      role.accessRights.allows permission.resource permission.action = true ∧
        g = ⟨principalId, role.id, role.name, permission.resource, permission.action⟩ := by
  unfold grant Role.check
  cases role.accessRights.allows permission.resource permission.action <;>
    simp [Decision.ofBool, eq_comm]

theorem grant_eq_error_iff :
    grant principalId role permission = .error error ↔
      role.accessRights.allows permission.resource permission.action = false ∧
        error = .authorization (.permissionDenied permission) := by
  unfold grant Role.check
  cases role.accessRights.allows permission.resource permission.action <;>
    simp [Decision.ofBool, eq_comm]

/-- The error of the first stage at which a request that may bear claims fails. -/
inductive ClaimsRefused (store : σ) (claims : Option AccessClaims) (now : Instant)
    (resource action : String) : AccessError → Prop
  | credentials :
      claims = none → ClaimsRefused store claims now resource action (.unauthorized .accessToken)
  | window {c : AccessClaims} {error : TokenError} :
      claims = some c → c.Refused now error →
      ClaimsRefused store claims now resource action (.token error)
  | names {c : AccessClaims} {cause : InvalidRequest} :
      claims = some c → c.Holds now → Permission.Misnamed resource action cause →
      ClaimsRefused store claims now resource action (.authorization (.invalidRequest cause))
  | role {c : AccessClaims} {p : Permission} {error : AuthorizationError} :
      claims = some c → c.Holds now → p.Named resource action →
      IdentityStore.resolveRole store c.roleId = .error error →
      ClaimsRefused store claims now resource action (.authorization error)
  | matrix {c : AccessClaims} {p : Permission} {role : Role} :
      claims = some c → c.Holds now → p.Named resource action →
      IdentityStore.resolveRole store c.roleId = .ok role →
      role.accessRights.allows p.resource p.action = false →
      ClaimsRefused store claims now resource action (.authorization (.permissionDenied p))

/-- The error of the first stage at which a request of a known principal fails. -/
inductive PrincipalRefused (store : σ) (principalId : PrincipalId) (resource action : String) :
    AccessError → Prop
  | names {cause : InvalidRequest} :
      Permission.Misnamed resource action cause →
      PrincipalRefused store principalId resource action (.authorization (.invalidRequest cause))
  | principal {p : Permission} {error : AuthorizationError} :
      p.Named resource action → IdentityStore.resolvePrincipal store principalId = .error error →
      PrincipalRefused store principalId resource action (.authorization error)
  | role {p : Permission} {principal : Principal} {error : AuthorizationError} :
      p.Named resource action → IdentityStore.resolvePrincipal store principalId = .ok principal →
      IdentityStore.resolveRole store principal.roleId = .error error →
      PrincipalRefused store principalId resource action (.authorization error)
  | matrix {p : Permission} {principal : Principal} {role : Role} :
      p.Named resource action → IdentityStore.resolvePrincipal store principalId = .ok principal →
      IdentityStore.resolveRole store principal.roleId = .ok role →
      role.accessRights.allows p.resource p.action = false →
      PrincipalRefused store principalId resource action (.authorization (.permissionDenied p))

/-! ## Requests with claims -/

section

variable {c : AccessClaims}

theorem require_eq_ok_iff :
    require store c now resource action = .ok g ↔
      c.Holds now ∧ ∃ p : Permission, p.Named resource action ∧
        ∃ role, IdentityStore.resolveRole store c.roleId = .ok role ∧
          grant c.subject role p = .ok g := by
  unfold require
  simp only [bind_eq_ok_iff, mapError_eq_ok_iff, Permission.ofNames_eq_ok_iff]
  constructor
  · rintro ⟨_, hvalid, hrest⟩
    exact ⟨AccessClaims.validate_eq_ok_iff.1 hvalid, hrest⟩
  · rintro ⟨hholds, hrest⟩
    exact ⟨(), AccessClaims.validate_eq_ok_iff.2 hholds, hrest⟩

theorem require_eq_error_iff :
    require store c now resource action = .error error ↔
      ClaimsRefused store (some c) now resource action error := by
  unfold require
  simp only [bind_eq_error_iff, mapError_eq_error_iff, mapError_eq_ok_iff,
    AccessClaims.validate_eq_error_iff, Permission.ofNames_eq_ok_iff,
    Permission.ofNames_eq_error_iff, grant_eq_error_iff]
  constructor
  · rintro (⟨tokenError, hwindow, rfl⟩ | ⟨_, hvalid, hlater⟩)
    · exact .window rfl hwindow
    have hholds := AccessClaims.validate_eq_ok_iff.1 hvalid
    rcases hlater with ⟨_, ⟨cause, hnames, rfl⟩, rfl⟩ | ⟨p, hnamed, hlater⟩
    · exact .names rfl hholds hnames
    rcases hlater with ⟨storeError, hrole, rfl⟩ | ⟨role, hrole, hdenied, rfl⟩
    · exact .role rfl hholds hnamed hrole
    · exact .matrix rfl hholds hnamed hrole hdenied
  · intro h
    cases h with
    | credentials hnone => cases hnone
    | window hc hwindow =>
      cases hc
      exact .inl ⟨_, hwindow, rfl⟩
    | names hc hholds hnames =>
      cases hc
      exact .inr ⟨(), AccessClaims.validate_eq_ok_iff.2 hholds, .inl ⟨_, ⟨_, hnames, rfl⟩, rfl⟩⟩
    | role hc hholds hnamed hrole =>
      cases hc
      exact .inr ⟨(), AccessClaims.validate_eq_ok_iff.2 hholds,
        .inr ⟨_, hnamed, .inl ⟨_, hrole, rfl⟩⟩⟩
    | matrix hc hholds hnamed hrole hdenied =>
      cases hc
      exact .inr ⟨(), AccessClaims.validate_eq_ok_iff.2 hholds,
        .inr ⟨_, hnamed, .inr ⟨_, hrole, hdenied, rfl⟩⟩⟩

end

theorem requireClaims_eq_ok_iff :
    requireClaims store claims now resource action = .ok g ↔
      ∃ c, claims = some c ∧ require store c now resource action = .ok g := by
  cases claims with
  | none => simp [requireClaims]
  | some c => simp [requireClaims]

theorem requireClaims_eq_error_iff :
    requireClaims store claims now resource action = .error error ↔
      ClaimsRefused store claims now resource action error := by
  cases claims with
  | none =>
    constructor
    · rintro ⟨⟩
      exact .credentials rfl
    · intro h
      cases h with
      | credentials _ => rfl
      | window hc _ => cases hc
      | names hc _ _ => cases hc
      | role hc _ _ _ => cases hc
      | matrix hc _ _ _ _ => cases hc
  | some c => exact require_eq_error_iff

/-! ## Requests of a known principal -/

theorem requirePrincipal_eq_ok_iff :
    requirePrincipal store principalId resource action = .ok g ↔
      ∃ p : Permission, p.Named resource action ∧
        ∃ principal, IdentityStore.resolvePrincipal store principalId = .ok principal ∧
          ∃ role, IdentityStore.resolveRole store principal.roleId = .ok role ∧
            grant principal.id role p = .ok g := by
  unfold requirePrincipal
  simp only [bind_eq_ok_iff, mapError_eq_ok_iff, Permission.ofNames_eq_ok_iff]

theorem requirePrincipal_eq_error_iff :
    requirePrincipal store principalId resource action = .error error ↔
      PrincipalRefused store principalId resource action error := by
  unfold requirePrincipal
  simp only [bind_eq_error_iff, mapError_eq_error_iff, mapError_eq_ok_iff,
    Permission.ofNames_eq_ok_iff, Permission.ofNames_eq_error_iff, grant_eq_error_iff]
  constructor
  · rintro (⟨_, ⟨cause, hnames, rfl⟩, rfl⟩ | ⟨p, hnamed, hlater⟩)
    · exact .names hnames
    rcases hlater with ⟨storeError, hprincipal, rfl⟩ | ⟨principal, hprincipal, hlater⟩
    · exact .principal hnamed hprincipal
    rcases hlater with ⟨storeError, hrole, rfl⟩ | ⟨role, hrole, hdenied, rfl⟩
    · exact .role hnamed hprincipal hrole
    · exact .matrix hnamed hprincipal hrole hdenied
  · intro h
    cases h with
    | names hnames => exact .inl ⟨_, ⟨_, hnames, rfl⟩, rfl⟩
    | principal hnamed hprincipal => exact .inr ⟨_, hnamed, .inl ⟨_, hprincipal, rfl⟩⟩
    | role hnamed hprincipal hrole =>
      exact .inr ⟨_, hnamed, .inr ⟨_, hprincipal, .inl ⟨_, hrole, rfl⟩⟩⟩
    | matrix hnamed hprincipal hrole hdenied =>
      exact .inr ⟨_, hnamed, .inr ⟨_, hprincipal, .inr ⟨_, hrole, hdenied, rfl⟩⟩⟩

/-! ## What is answered without the store -/

/-- A request fails before the store is asked. -/
def Unasked (claims : Option AccessClaims) (now : Instant) (resource action : String) : Prop :=
  claims = none ∨ (∃ c, claims = some c ∧ ¬ c.Holds now) ∨
    ∀ p : Permission, ¬ p.Named resource action

section

variable {τ : Type} [IdentityStore τ]

theorem require_eq_of_misnamed (c : AccessClaims) (store : σ) (other : τ)
    (h : ∀ p : Permission, ¬ p.Named resource action) :
    require other c now resource action = require store c now resource action := by
  obtain ⟨error, herror⟩ := Permission.exists_ofNames_eq_error h
  unfold require
  rw [herror]
  cases c.validate now <;> rfl

theorem require_eq_of_not_holds {c : AccessClaims} (store : σ) (other : τ)
    (h : ¬ c.Holds now) :
    require other c now resource action = require store c now resource action := by
  unfold require
  cases hvalid : c.validate now with
  | error tokenError => rfl
  | ok _ => exact absurd (AccessClaims.validate_eq_ok_iff.1 hvalid) h

/-- A request that fails before the store is asked gets the same answer from all stores. -/
theorem requireClaims_eq_of_unasked (h : Unasked claims now resource action) (store : σ)
    (other : τ) :
    requireClaims other claims now resource action
      = requireClaims store claims now resource action := by
  rcases h with rfl | ⟨c, rfl, hwindow⟩ | hnames
  · rfl
  · exact require_eq_of_not_holds store other hwindow
  · cases claims with
    | none => rfl
    | some c => exact require_eq_of_misnamed c store other hnames

theorem requirePrincipal_eq_of_misnamed (principalId : PrincipalId) (store : σ) (other : τ)
    (h : ∀ p : Permission, ¬ p.Named resource action) :
    requirePrincipal other principalId resource action
      = requirePrincipal store principalId resource action := by
  obtain ⟨error, herror⟩ := Permission.exists_ofNames_eq_error h
  unfold requirePrincipal
  rw [herror]
  rfl

end

/-! ## Every request is mediated -/

/--
**The guard mediates every request and fails closed**, whatever the store answers.  A
request with claims is granted exactly when there are claims, their window holds the
instant, the names are those of a permission, the store resolves the role of the claims
and its matrix allows the permission; the grant says whom, by which role and what for.
Any other request gets the error of the first stage that it fails, and if that is one
before the store, the same from all stores.  The same holds of the requests of a known
principal, whose role is the one that the store gives for the principal.
-/
theorem requests_mediated (store : σ) (claims : Option AccessClaims) (principalId : PrincipalId)
    (now : Instant) (resource action : String) :
    ((∀ g, requireClaims store claims now resource action = .ok g ↔
        ∃ (c : AccessClaims) (p : Permission) (role : Role),
          claims = some c ∧ c.Holds now ∧ p.Named resource action ∧
          IdentityStore.resolveRole store c.roleId = .ok role ∧
          role.accessRights.allows p.resource p.action = true ∧
          g = ⟨c.subject, role.id, role.name, p.resource, p.action⟩) ∧
      (∀ error, requireClaims store claims now resource action = .error error ↔
        ClaimsRefused store claims now resource action error) ∧
      (Unasked claims now resource action → ∀ (τ : Type) [IdentityStore τ] (other : τ),
        requireClaims other claims now resource action
          = requireClaims store claims now resource action)) ∧
    (∀ g, requirePrincipal store principalId resource action = .ok g ↔
        ∃ (p : Permission) (principal : Principal) (role : Role),
          p.Named resource action ∧
          IdentityStore.resolvePrincipal store principalId = .ok principal ∧
          IdentityStore.resolveRole store principal.roleId = .ok role ∧
          role.accessRights.allows p.resource p.action = true ∧
          g = ⟨principal.id, role.id, role.name, p.resource, p.action⟩) ∧
      (∀ error, requirePrincipal store principalId resource action = .error error ↔
        PrincipalRefused store principalId resource action error) ∧
      ((∀ p : Permission, ¬ p.Named resource action) →
        ∀ (τ : Type) [IdentityStore τ] (other : τ),
        requirePrincipal other principalId resource action
          = requirePrincipal store principalId resource action) := by
  refine ⟨⟨?_, fun error => requireClaims_eq_error_iff, ?_⟩, ?_,
    fun error => requirePrincipal_eq_error_iff, ?_⟩
  · intro g
    simp only [requireClaims_eq_ok_iff, require_eq_ok_iff, grant_eq_ok_iff]
    constructor
    · rintro ⟨c, hclaims, hholds, p, hnamed, role, hrole, hallows, hg⟩
      exact ⟨c, p, role, hclaims, hholds, hnamed, hrole, hallows, hg⟩
    · rintro ⟨c, p, role, hclaims, hholds, hnamed, hrole, hallows, hg⟩
      exact ⟨c, hclaims, hholds, p, hnamed, role, hrole, hallows, hg⟩
  · intro hunasked τ _ other
    exact requireClaims_eq_of_unasked hunasked store other
  · intro g
    simp only [requirePrincipal_eq_ok_iff, grant_eq_ok_iff]
    constructor
    · rintro ⟨p, hnamed, principal, hprincipal, role, hrole, hallows, hg⟩
      exact ⟨p, principal, role, hnamed, hprincipal, hrole, hallows, hg⟩
    · rintro ⟨p, principal, role, hnamed, hprincipal, hrole, hallows, hg⟩
      exact ⟨p, hnamed, principal, hprincipal, role, hrole, hallows, hg⟩
  · intro hnames τ _ other
    exact requirePrincipal_eq_of_misnamed principalId store other hnames

end Guard

end AccessControl
