/-
# Signing in and exchanging tokens

When the steps of the two calls on sessions succeed, for any stores, and what the
calls come to on the clients kept in memory.
-/
import AccessControl.Clients
import AccessControl.Session
import AccessControl.Proofs.Steps

namespace AccessControl.Session

/-! ## Issuing a session -/

variable {settings : Settings} {principal : Principal} {now : Instant} {lifetime : Duration}
  {token fresh : String} {session : Session}

/-- A session is issued when both of its ends can be represented. -/
theorem issue_eq_ok_iff :
    issue settings principal now lifetime token = .ok session ↔
      ∃ claimsEnd clientEnd, now.add? settings.accessTokenLifetime = some claimsEnd ∧
        now.add? lifetime = some clientEnd ∧
        session = ⟨⟨principal.id, principal.roleId, now, claimsEnd⟩,
          ⟨principal.id, token, clientEnd⟩⟩ := by
  unfold issue Settings.issueClaims AccessClaims.issue RefreshClient.issue
  cases now.add? settings.accessTokenLifetime with
  | none => simp [bind, Except.bind]
  | some claimsEnd =>
    cases now.add? lifetime with
    | none => simp [bind, Except.bind]
    | some clientEnd => simp [bind, Except.bind, pure, Except.pure, eq_comm]

theorem exists_issue_eq_ok_iff :
    (∃ session, issue settings principal now lifetime token = .ok session) ↔
      (now.add? settings.accessTokenLifetime).isSome ∧ (now.add? lifetime).isSome := by
  rw [Option.isSome_iff_exists, Option.isSome_iff_exists]
  constructor
  · rintro ⟨session, hissue⟩
    obtain ⟨claimsEnd, clientEnd, hclaims, hclient, -⟩ := issue_eq_ok_iff.1 hissue
    exact ⟨⟨claimsEnd, hclaims⟩, ⟨clientEnd, hclient⟩⟩
  · rintro ⟨⟨claimsEnd, hclaims⟩, ⟨clientEnd, hclient⟩⟩
    exact ⟨_, issue_eq_ok_iff.2 ⟨claimsEnd, clientEnd, hclaims, hclient, rfl⟩⟩

/-! ## The calls on any stores -/

section

variable {ι κ : Type} [IdentityStore ι] [ClientStore κ] {identities : ι} {clients clients' : κ}
  {current : RefreshClient}

theorem signIn_eq_ok_iff {principalId : PrincipalId} :
    signIn identities settings clients principalId now token = .ok (session, clients') ↔
      ∃ principal, IdentityStore.resolvePrincipal identities principalId = .ok principal ∧
        issue settings principal now firstLifetime token = .ok session ∧
        ClientStore.insertClient clients session.client = .ok clients' := by
  unfold signIn
  simp only [bind_eq_ok_iff, mapError_eq_ok_iff, pure, Except.pure, Except.ok.injEq,
    Prod.mk.injEq]
  constructor
  · rintro ⟨principal, hprincipal, issued, hissue, stored, hinsert, rfl, rfl⟩
    exact ⟨principal, hprincipal, hissue, hinsert⟩
  · rintro ⟨principal, hprincipal, hissue, hinsert⟩
    exact ⟨principal, hprincipal, session, hissue, clients', hinsert, rfl, rfl⟩

theorem renew_eq_ok_iff :
    renew identities settings current now fresh = .ok session ↔
      ∃ principal, IdentityStore.resolvePrincipal identities current.principalId = .ok principal ∧
        issue settings principal now renewedLifetime fresh = .ok session := by
  unfold renew
  simp only [bind_eq_ok_iff, mapError_eq_ok_iff]

/-- A client can be renewed when its principal is known and both windows can be represented. -/
theorem exists_renew_eq_ok_iff :
    (∃ session, renew identities settings current now fresh = .ok session) ↔
      (∃ principal,
        IdentityStore.resolvePrincipal identities current.principalId = .ok principal) ∧
        (now.add? settings.accessTokenLifetime).isSome ∧ (now.add? renewedLifetime).isSome := by
  constructor
  · rintro ⟨session, hrenew⟩
    obtain ⟨principal, hprincipal, hissue⟩ := renew_eq_ok_iff.1 hrenew
    exact ⟨⟨principal, hprincipal⟩, exists_issue_eq_ok_iff.1 ⟨session, hissue⟩⟩
  · rintro ⟨⟨principal, hprincipal⟩, hwindows⟩
    have hissue : ∃ session, issue settings principal now renewedLifetime fresh = .ok session :=
      exists_issue_eq_ok_iff.2 hwindows
    obtain ⟨session, hissue⟩ := hissue
    exact ⟨session, renew_eq_ok_iff.2 ⟨principal, hprincipal, hissue⟩⟩

theorem exchange_eq_ok_iff :
    exchange identities settings clients token now fresh = .ok (session, clients') ↔
      ∃ current, lookUp clients token = .ok current ∧
        renew identities settings current now fresh = .ok session ∧
        swap clients token session = .ok clients' := by
  unfold exchange
  simp only [bind_eq_ok_iff, pure, Except.pure, Except.ok.injEq, Prod.mk.injEq]
  constructor
  · rintro ⟨current, hfound, renewed, hrenew, swapped, hswap, rfl, rfl⟩
    exact ⟨current, hfound, hrenew, hswap⟩
  · rintro ⟨current, hfound, hrenew, hswap⟩
    exact ⟨current, hfound, session, hrenew, clients', hswap, rfl, rfl⟩

theorem lookUp_eq_ok_iff_findClient :
    lookUp clients token = .ok current ↔
      ClientStore.findClient clients token = .ok (some current) := by
  simp only [lookUp, bind_eq_ok_iff, mapError_eq_ok_iff, elim_eq_ok_iff]
  constructor
  · rintro ⟨_, hfind, rfl⟩
    exact hfind
  · intro hfind
    exact ⟨some current, hfind, rfl⟩

theorem swap_eq_ok_iff_rotateClient :
    swap clients token session = .ok clients' ↔
      ∃ retired, ClientStore.rotateClient clients token session.client
        = .ok (some (retired, clients')) := by
  unfold swap
  simp only [bind_eq_ok_iff, mapError_eq_ok_iff]
  constructor
  · rintro ⟨rotated, hrotate, hswap⟩
    cases rotated with
    | none => simp at hswap
    | some rotated =>
      obtain ⟨retired, stored⟩ := rotated
      simp only [Option.elim_some, Except.ok.injEq] at hswap
      exact ⟨retired, by rw [hrotate, hswap]⟩
  · rintro ⟨retired, hrotate⟩
    exact ⟨some (retired, clients'), hrotate, rfl⟩

/-- Nothing is exchanged when the expired clients cannot be removed. -/
theorem refresh_of_removeExpired_error {error : AuthorizationError}
    (h : ClientStore.removeExpired clients now = .error error) :
    refresh identities settings clients token now fresh
      = (.error (.authorization error), clients) := by
  unfold refresh
  simp only [h]

/-- An exchange that fails leaves what the removal of the expired clients has left. -/
theorem refresh_of_exchange_eq_error {removed : Nat} {error : AccessError}
    (hpurge : ClientStore.removeExpired clients now = .ok (removed, clients'))
    (h : exchange identities settings clients' token now fresh = .error error) :
    refresh identities settings clients token now fresh = (.error error, clients') := by
  unfold refresh
  simp only [hpurge, h]

theorem refresh_of_exchange_eq_ok {removed : Nat} {clients'' : κ}
    (hpurge : ClientStore.removeExpired clients now = .ok (removed, clients'))
    (h : exchange identities settings clients' token now fresh = .ok (session, clients'')) :
    refresh identities settings clients token now fresh = (.ok session, clients'') := by
  unfold refresh
  simp only [hpurge, h]

/-- A session is obtained by an exchange after the expired clients have been removed. -/
theorem exists_exchange_of_refresh
    (h : (refresh identities settings clients token now fresh).1 = .ok session) :
    ∃ removed purged swapped, ClientStore.removeExpired clients now = .ok (removed, purged) ∧
      exchange identities settings purged token now fresh = .ok (session, swapped) := by
  cases hpurge : ClientStore.removeExpired clients now with
  | error error =>
    rw [refresh_of_removeExpired_error hpurge] at h
    cases h
  | ok purged =>
    cases hexchange : exchange identities settings purged.2 token now fresh with
    | error error =>
      rw [refresh_of_exchange_eq_error hpurge hexchange] at h
      cases h
    | ok exchanged =>
      rw [refresh_of_exchange_eq_ok hpurge hexchange] at h
      cases h
      exact ⟨purged.1, purged.2, exchanged.2, rfl, hexchange⟩

end

/-! ## The steps on the clients kept in memory -/

section

variable {clients clients' : Clients} {current : RefreshClient}

theorem lookUp_of_some (h : clients.find? token = some current) :
    lookUp clients token = .ok current := by
  unfold lookUp
  simp only [ClientStore.findClient, h]
  rfl

theorem lookUp_of_none (h : clients.find? token = none) :
    lookUp clients token = .error (.unauthorized .knownRefreshToken) := by
  unfold lookUp
  simp only [ClientStore.findClient, h]
  rfl

theorem lookUp_eq_ok_iff :
    lookUp clients token = .ok current ↔ clients.find? token = some current := by
  rw [lookUp_eq_ok_iff_findClient]
  show (Except.ok (clients.find? token) : Except AuthorizationError _) = .ok (some current) ↔ _
  rw [Except.ok.injEq]

theorem swap_eq_ok_iff :
    swap clients token session = .ok clients' ↔
      ∃ retired, clients.rotate token session.client = .ok (some (retired, clients')) :=
  swap_eq_ok_iff_rotateClient

/-- A swap with a token that is not stored fails only when the old one is not stored either. -/
theorem swap_of_none (hnew : clients.find? session.client.refreshToken = none)
    (h : clients.find? token = none) :
    swap clients token session = .error (.unauthorized .unusedRefreshToken) := by
  have hrotate : clients.rotate token session.client = .ok none :=
    (Clients.rotate_eq_ok_none_iff hnew).2 h
  unfold swap
  simp only [ClientStore.rotateClient, hrotate]
  rfl

theorem exists_swap_eq_ok (hnew : clients.find? session.client.refreshToken = none)
    (h : clients.find? token = some current) :
    ∃ clients', swap clients token session = .ok clients' :=
  ⟨_, swap_eq_ok_iff.2 ⟨current, Clients.rotate_eq_ok_some_iff.2 ⟨hnew, h, rfl⟩⟩⟩

/-- A swap with a token that is not stored fails for one reason only. -/
theorem swap_eq_error {error : AccessError}
    (hnew : clients.find? session.client.refreshToken = none)
    (h : swap clients token session = .error error) :
    error = .unauthorized .unusedRefreshToken := by
  cases hfind : clients.find? token with
  | none =>
    rw [swap_of_none hnew hfind] at h
    cases h
    rfl
  | some current =>
    obtain ⟨clients', hswap⟩ := exists_swap_eq_ok hnew hfind
    rw [hswap] at h
    cases h

/-- When a swap succeeds, the old token is stored and the new one is not. -/
theorem find?_of_swap (h : swap clients token session = .ok clients') :
    clients.find? session.client.refreshToken = none ∧
      ∃ retired, clients.find? token = some retired := by
  obtain ⟨retired, hrotate⟩ := swap_eq_ok_iff.1 h
  obtain ⟨hnew, hfind, -⟩ := Clients.rotate_eq_ok_some_iff.1 hrotate
  exact ⟨hnew, retired, hfind⟩

/-- What is stored after a swap: the new client, and all others but the old one. -/
theorem find?_eq_some_iff_of_swap (h : swap clients token session = .ok clients') {other : String}
    {found : RefreshClient} :
    clients'.find? other = some found ↔
      other = session.client.refreshToken ∧ found = session.client ∨
        other ≠ token ∧ clients.find? other = some found := by
  obtain ⟨retired, hrotate⟩ := swap_eq_ok_iff.1 h
  exact Clients.find?_eq_some_iff_of_rotate hrotate

/-- The old token of a swap is gone. -/
theorem find?_eq_none_of_swap (h : swap clients token session = .ok clients') :
    clients'.find? token = none := by
  rw [Option.eq_none_iff_forall_ne_some]
  intro found hfound
  -- the new token is not the old one, as only the old one was stored
  obtain ⟨hnew, retired, hold⟩ := find?_of_swap h
  rcases (find?_eq_some_iff_of_swap h).1 hfound with ⟨heq, -⟩ | ⟨hne, -⟩
  · rw [heq, hnew] at hold
    cases hold
  · exact hne rfl

section

variable {ι : Type} [IdentityStore ι] {identities : ι}

/-- An exchange that fails leaves what the purge has left. -/
theorem refresh_of_exchange_error {error : AccessError}
    (h : exchange identities settings (clients.unexpired now) token now fresh = .error error) :
    refresh identities settings clients token now fresh
      = (.error error, clients.unexpired now) :=
  refresh_of_exchange_eq_error rfl h

theorem refresh_of_exchange_ok
    (h : exchange identities settings (clients.unexpired now) token now fresh
      = .ok (session, clients')) :
    refresh identities settings clients token now fresh = (.ok session, clients') :=
  refresh_of_exchange_eq_ok rfl h

end

end

end AccessControl.Session
