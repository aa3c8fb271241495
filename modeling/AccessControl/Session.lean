/-
# Sessions

A session is a pair of access claims and a refresh client that can renew them.
A refresh token is exchanged at most once: the exchange first removes the expired
clients, looks the token up, issues a new session, and swaps the token for the
new one, which fails when another exchange has been faster.
-/
import AccessControl.Settings
import AccessControl.Store

namespace AccessControl

/-- Access claims and the refresh client that can renew them. -/
structure Session where
  claims : AccessClaims
  client : RefreshClient
  deriving DecidableEq, Repr

namespace Session

/-- The lifetime of the refresh token of a new session. -/
def firstLifetime : Duration := .minutes 1440

/-- The lifetime of a refresh token that was exchanged for another one. -/
def renewedLifetime : Duration := .minutes 40

/-- A session for a principal, with a given token of a given lifetime. -/
def issue (settings : Settings) (principal : Principal) (now : Instant) (lifetime : Duration)
    (token : String) : Except TokenError Session := do
  let claims ← settings.issueClaims principal.id principal.roleId now
  let client ← RefreshClient.issue principal.id now lifetime token
  return { claims, client }

/-- A session in JSON. -/
def toJson (session : Session) : Json.Value :=
  .object [("claims", session.claims.toJson), ("client", session.client.toJson)]

variable {ι κ : Type} [IdentityStore ι] [ClientStore κ]

/-- Opens a session for a principal, whose refresh token will be `token`. -/
def signIn (identities : ι) (settings : Settings) (clients : κ) (principalId : PrincipalId)
    (now : Instant) (token : String) : Except AccessError (Session × κ) := do
  let principal ← (IdentityStore.resolvePrincipal identities principalId).mapError .authorization
  let session ← (issue settings principal now firstLifetime token).mapError .token
  let clients ← (ClientStore.insertClient clients session.client).mapError .authorization
  return (session, clients)

/-! ## Exchanging a token -/

/-- The client with the token to be exchanged. -/
def lookUp (clients : κ) (token : String) : Except AccessError RefreshClient := do
  let found ← (ClientStore.findClient clients token).mapError .authorization
  found.elim (.error (.unauthorized .knownRefreshToken)) .ok

/-- The session that follows the one of a client, whose refresh token will be `fresh`. -/
def renew (identities : ι) (settings : Settings) (current : RefreshClient) (now : Instant)
    (fresh : String) : Except AccessError Session := do
  let principal ←
    (IdentityStore.resolvePrincipal identities current.principalId).mapError .authorization
  (issue settings principal now renewedLifetime fresh).mapError .token

/-- Swaps a token for the one of a session. -/
def swap (clients : κ) (token : String) (session : Session) : Except AccessError κ := do
  let rotated ← (ClientStore.rotateClient clients token session.client).mapError .authorization
  rotated.elim (.error (.unauthorized .unusedRefreshToken)) fun (_, clients) => .ok clients

/-- The exchange of a token once the expired clients have been removed. -/
def exchange (identities : ι) (settings : Settings) (clients : κ) (token : String)
    (now : Instant) (fresh : String) : Except AccessError (Session × κ) := do
  let current ← lookUp clients token
  let session ← renew identities settings current now fresh
  return (session, ← swap clients token session)

/-- Exchanges a token for a new session, whose refresh token will be `fresh`. -/
def refresh (identities : ι) (settings : Settings) (clients : κ) (token : String)
    (now : Instant) (fresh : String) : Except AccessError Session × κ :=
  match ClientStore.removeExpired clients now with
  | .error error => (.error (.authorization error), clients)
  | .ok (_, clients) =>
    match exchange identities settings clients token now fresh with
    | .error error => (.error error, clients)
    | .ok (session, clients) => (.ok session, clients)

end Session

end AccessControl
