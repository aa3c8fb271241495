/-
# Errors

The causes for which a request, a stored document or a store operation is
refused, and the wording of each.  None of them is ever taken for an allowance.
-/
import AccessControl.Identifier
import AccessControl.Rights.Document

namespace AccessControl

/-! ## Causes -/

/-- Why a request cannot be decided at all. -/
inductive InvalidRequest where
  | unknownResource (name : String)
  | unknownAction (name : String)
  | blankRoleName
  /-- A value that was refused elsewhere, with the reason given there. -/
  | refused (reason : String)
  deriving DecidableEq, Repr

/-- The wording of each refusal. -/
def InvalidRequest.message : InvalidRequest → String
  | .unknownResource name => "unknown resource '" ++ name ++ "'"
  | .unknownAction name => "unknown action '" ++ name ++ "'"
  | .blankRoleName => "role name must not be empty"
  | .refused reason => reason

/-- Why a change clashes with what is stored. -/
inductive Conflict where
  | staleVersion (expected actual : UInt64)
  | roleExists (roleId : RoleId)
  | roleNameTaken (name : String)
  | loginTaken (login : String)
  | tokenIssued
  /-- A clash that was found elsewhere, with the reason given there. -/
  | reported (reason : String)
  deriving DecidableEq, Repr

/-- The wording of each clash. -/
def Conflict.message : Conflict → String
  | .staleVersion expected actual =>
    "optimistic concurrency check failed (expected: Exact(" ++ toString expected.toNat ++
      "), actual: " ++ toString actual.toNat ++ ")"
  | .roleExists roleId => "role " ++ roleId.text ++ " already exists"
  | .roleNameTaken name => "role name '" ++ name ++ "' already exists"
  | .loginTaken login => "login '" ++ login ++ "' already exists"
  | .tokenIssued => "refresh token already issued"
  | .reported reason => reason

/-- What is wrong with a policy. -/
inductive PolicyDefect where
  | unreadable (cause : Json.ReadError)
  | matrix (defect : MatrixDefect)
  | roleMatrix (role : String) (defect : MatrixDefect)
  | blankRoleName
  | duplicateRole (name : String)
  | undefinedRole (login role : String)
  | duplicateLogin (login : String)
  deriving DecidableEq, Repr

/-- The wording of each defect. -/
def PolicyDefect.message : PolicyDefect → String
  | .unreadable cause => "policy document: " ++ cause.message
  | .matrix defect => defect.message
  | .roleMatrix role defect => "role '" ++ role ++ "': " ++ defect.message
  | .blankRoleName => "stored role has an empty name"
  | .duplicateRole name => "role '" ++ name ++ "' is defined more than once"
  | .undefinedRole login role =>
    "principal '" ++ login ++ "' references undefined role '" ++ role ++ "'"
  | .duplicateLogin login => "login '" ++ login ++ "' is defined more than once"

/-! ## Errors of the domain and of authorization -/

/-- Errors of values, identifiers and versions, before anything is authorized. -/
inductive DomainError where
  | validation (reason : String)
  | invalidId (reason : String)
  | conflict (cause : Conflict)
  deriving DecidableEq, Repr

/-- The wording of each error of the domain. -/
def DomainError.message : DomainError → String
  | .validation reason => "validation failed: " ++ reason
  | .invalidId reason => "invalid identifier: " ++ reason
  | .conflict cause => "conflict: " ++ cause.message

/-- Errors of decisions and of the identity store. -/
inductive AuthorizationError where
  | invalidRequest (cause : InvalidRequest)
  | roleNotFound (roleId : RoleId)
  | unknownRoleName (name : String)
  | unknownPrincipal (principalId : PrincipalId)
  | malformedPolicy (defect : PolicyDefect)
  | permissionDenied (permission : Permission)
  | conflict (cause : Conflict)
  | roleInUse (roleId : RoleId)
  | storage (reason : String)
  deriving DecidableEq, Repr

/-- The wording of each error of authorization. -/
def AuthorizationError.message : AuthorizationError → String
  | .invalidRequest cause => "invalid request: " ++ cause.message
  | .roleNotFound roleId => "role not found: " ++ roleId.text
  | .unknownRoleName name => "no role named '" ++ name ++ "'"
  | .unknownPrincipal principalId => "principal not found: " ++ principalId.text
  | .malformedPolicy defect => "malformed policy: " ++ defect.message
  | .permissionDenied permission => "permission denied: " ++ permission.name
  | .conflict cause => "conflict: " ++ cause.message
  | .roleInUse roleId => "role " ++ roleId.text ++ " is still assigned to principals"
  | .storage reason => "storage failure: " ++ reason

/-- The error of authorization that an error of the domain becomes. -/
def DomainError.toAuthorization : DomainError → AuthorizationError
  | .validation reason => .invalidRequest (.refused reason)
  | .invalidId reason => .invalidRequest (.refused reason)
  | .conflict cause => .conflict cause

/-! ## Errors of access -/

/-- Why an access token is refused. -/
inductive TokenError where
  | expired
  | notYetValid
  | invalidTimeWindow
  deriving DecidableEq, Repr

/-- The wording of each refusal of a token. -/
def TokenError.message : TokenError → String
  | .expired => "token has expired"
  | .notYetValid => "token not yet valid (issued_at is in the future)"
  | .invalidTimeWindow => "invalid token time window (expires_at <= issued_at)"

/-- Which credentials are missing. -/
inductive MissingCredentials where
  | accessToken
  | knownRefreshToken
  | unusedRefreshToken
  deriving DecidableEq, Repr

/-- The wording of each lack of credentials. -/
def MissingCredentials.message : MissingCredentials → String
  | .accessToken => "missing access token"
  | .knownRefreshToken => "unknown or expired refresh token"
  | .unusedRefreshToken => "refresh token already used"

/-- Why access is refused or no session is opened. -/
inductive AccessError where
  | unauthorized (cause : MissingCredentials)
  | token (error : TokenError)
  | authorization (error : AuthorizationError)
  deriving DecidableEq, Repr

/-- The wording of each error of access. -/
def AccessError.message : AccessError → String
  | .unauthorized cause => "unauthorized: " ++ cause.message
  | .token error => error.message
  | .authorization error => error.message

/-! ## What may be missing -/

section

variable {ε α : Type} {found : Option α} {error cause : ε} {a : α}

/-- What may be missing is given when it is there. -/
theorem elim_eq_ok_iff : found.elim (.error error) .ok = Except.ok a ↔ found = some a := by
  cases found <;> simp

/-- There is one error for what is missing. -/
theorem elim_eq_error_iff :
    found.elim (.error error) .ok = (Except.error cause : Except ε α) ↔
      found = none ∧ cause = error := by
  cases found <;> simp [eq_comm]

end

/-! ## Names and identifiers -/

/-- The role identifier that a text denotes, or the error that it denotes none. -/
def RoleId.ofText (text : String) : Except DomainError RoleId :=
  (RoleId.ofText? text).elim (.error (.invalidId "RoleId")) .ok

theorem RoleId.ofText_eq_ok_iff {text : String} {roleId : RoleId} :
    RoleId.ofText text = .ok roleId ↔ RoleId.ofText? text = some roleId := elim_eq_ok_iff

theorem RoleId.ofText_eq_error_iff {text : String} {error : DomainError} :
    RoleId.ofText text = .error error ↔
      RoleId.ofText? text = none ∧ error = .invalidId "RoleId" := elim_eq_error_iff

/-- The principal identifier that a text denotes, or the error that it denotes none. -/
def PrincipalId.ofText (text : String) : Except DomainError PrincipalId :=
  (PrincipalId.ofText? text).elim (.error (.invalidId "PrincipalId")) .ok

theorem PrincipalId.ofText_eq_ok_iff {text : String} {principalId : PrincipalId} :
    PrincipalId.ofText text = .ok principalId ↔ PrincipalId.ofText? text = some principalId :=
  elim_eq_ok_iff

theorem PrincipalId.ofText_eq_error_iff {text : String} {error : DomainError} :
    PrincipalId.ofText text = .error error ↔
      PrincipalId.ofText? text = none ∧ error = .invalidId "PrincipalId" := elim_eq_error_iff

/-- The permission that two names denote; the resource is looked at first. -/
def Permission.ofNames (resource action : String) : Except AuthorizationError Permission :=
  match Resource.ofName? resource with
  | none => .error (.invalidRequest (.unknownResource resource))
  | some r =>
    match Action.ofName? action with
    | none => .error (.invalidRequest (.unknownAction action))
    | some a => .ok ⟨r, a⟩

end AccessControl
