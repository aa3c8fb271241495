/-
# Refresh clients

A refresh token, the principal it was issued to, and the last instant at which it
can be exchanged.
-/
import AccessControl.Error
import AccessControl.Json.Scalars

namespace AccessControl

/-- The holder of a refresh token. -/
structure RefreshClient where
  principalId : PrincipalId
  refreshToken : String
  expiresAt : Instant
  deriving DecidableEq, Repr

namespace RefreshClient

/-- A client with a new token that can be exchanged for a lifetime from `now`. -/
def issue (principalId : PrincipalId) (now : Instant) (lifetime : Duration)
    (refreshToken : String) : Except TokenError RefreshClient :=
  match now.add? lifetime with
  | none => .error .invalidTimeWindow
  | some expiresAt => .ok { principalId, refreshToken, expiresAt }

/-- Whether the last instant of the client has passed. -/
def isExpired (client : RefreshClient) (now : Instant) : Bool := client.expiresAt < now

/-! ## JSON -/

/-- A client that is being read. -/
structure Draft where
  principalId : Option PrincipalId
  refreshToken : Option String
  expiresAt : Option Instant

/-- How a client is laid out in JSON. -/
def layout : Json.Record Draft RefreshClient where
  name := "RefreshClient"
  fields := [
    .required "principalId" Draft.principalId (fun d principalId => { d with principalId })
      PrincipalId.reader,
    .required "refreshToken" Draft.refreshToken (fun d refreshToken => { d with refreshToken })
      Json.Reader.text,
    .required "expiresAt" Draft.expiresAt (fun d expiresAt => { d with expiresAt }) Instant.reader]
  strict := false
  blank := ⟨none, none, none⟩
  finish draft := do
    let principalId ← Json.require "principalId" draft.principalId
    let refreshToken ← Json.require "refreshToken" draft.refreshToken
    let expiresAt ← Json.require "expiresAt" draft.expiresAt
    return { principalId, refreshToken, expiresAt }

/-- The client that a text denotes. -/
def ofText (text : String) : Json.Reading RefreshClient := layout.ofText text

/-- A client in JSON. -/
def toJson (client : RefreshClient) : Json.Value :=
  .object [
    ("principalId", client.principalId.toJson),
    ("refreshToken", .string client.refreshToken),
    ("expiresAt", client.expiresAt.toJson)]

end RefreshClient

end AccessControl
