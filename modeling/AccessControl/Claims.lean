/-
# Access claims

What an access token says: whom it was issued to, with which role, and from when
until when it is valid.  The start of the window belongs to it, its end does not.
-/
import AccessControl.Error
import AccessControl.Json.Scalars

namespace AccessControl

/-- The content of an access token. -/
structure AccessClaims where
  subject : PrincipalId
  /-- The role that the principal had when the token was issued. -/
  roleId : RoleId
  issuedAt : Instant
  expiresAt : Instant
  deriving DecidableEq, Repr

namespace AccessClaims

/-- Claims that are valid from `now` for a lifetime. -/
def issue (subject : PrincipalId) (roleId : RoleId) (now : Instant) (lifetime : Duration) :
    Except TokenError AccessClaims :=
  match now.add? lifetime with
  | none => .error .invalidTimeWindow
  | some expiresAt => .ok { subject, roleId, issuedAt := now, expiresAt }

/-- Whether the claims hold at an instant. -/
def validate (claims : AccessClaims) (now : Instant) : Except TokenError Unit :=
  if claims.expiresAt ≤ claims.issuedAt then .error .invalidTimeWindow
  else if now < claims.issuedAt then .error .notYetValid
  else if claims.expiresAt ≤ now then .error .expired
  else .ok ()

/-! ## JSON -/

/-- Claims that are being read. -/
structure Draft where
  subject : Option PrincipalId
  roleId : Option RoleId
  issuedAt : Option Instant
  expiresAt : Option Instant

/-- How claims are laid out in JSON. -/
def layout : Json.Record Draft AccessClaims where
  name := "AccessClaims"
  fields := [
    .required "sub" Draft.subject (fun d subject => { d with subject }) PrincipalId.reader,
    .required "role_id" Draft.roleId (fun d roleId => { d with roleId }) RoleId.reader,
    .required "issued_at" Draft.issuedAt (fun d issuedAt => { d with issuedAt }) Instant.reader,
    .required "expires_at" Draft.expiresAt (fun d expiresAt => { d with expiresAt }) Instant.reader]
  strict := false
  blank := ⟨none, none, none, none⟩
  finish draft := do
    let subject ← Json.require "sub" draft.subject
    let roleId ← Json.require "role_id" draft.roleId
    let issuedAt ← Json.require "issued_at" draft.issuedAt
    let expiresAt ← Json.require "expires_at" draft.expiresAt
    return { subject, roleId, issuedAt, expiresAt }

/-- The claims that a text denotes. -/
def ofText (text : String) : Json.Reading AccessClaims := layout.ofText text

/-- Claims in JSON. -/
def toJson (claims : AccessClaims) : Json.Value :=
  .object [
    ("sub", claims.subject.toJson),
    ("role_id", claims.roleId.toJson),
    ("issued_at", claims.issuedAt.toJson),
    ("expires_at", claims.expiresAt.toJson)]

end AccessClaims

end AccessControl
