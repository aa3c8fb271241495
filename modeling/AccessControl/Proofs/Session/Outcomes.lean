/-
# What a call on sessions leaves

Signing in and exchanging a token take up to five steps on two stores, any of which can
fail, by itself or because a fault was put into the store.  Every outcome of a call
determines the clients afterwards (`Outcome`): a sign-in that fails leaves them, and an
exchange that fails leaves the ones that have not expired, or all of them when it was the
purge that failed.  So an exchange that fails costs no token that was still good.
-/
import AccessControl.Store.Faulty
import AccessControl.Proofs.Directory.Permanence
import AccessControl.Proofs.Session.Calls

namespace AccessControl

/-! ## Changes of the clients -/

namespace Clients

/-- Every client is stored under its own token. -/
def UnderTokens (clients : Clients) : Prop := clients.byToken.KeyedBy RefreshClient.refreshToken

/-- The clients afterwards are those before and one with a new token. -/
structure Adds (before : Clients) (client : RefreshClient) (after : Clients) : Prop where
  new : before.find? client.refreshToken = none
  stored : ∀ token found, after.find? token = some found ↔
    token = client.refreshToken ∧ found = client ∨ before.find? token = some found

/-- The clients afterwards are those before without a token and with one for a new token. -/
structure Swaps (before : Clients) (token : String) (client : RefreshClient) (after : Clients) :
    Prop where
  old : ∃ retired, before.find? token = some retired
  new : before.find? client.refreshToken = none
  stored : ∀ other found, after.find? other = some found ↔
    other = client.refreshToken ∧ found = client ∨
      other ≠ token ∧ before.find? other = some found

variable {clients clients' : Clients} {client : RefreshClient} {token : String} {now : Instant}

theorem adds_of_insert (h : clients.insert client = .ok clients') :
    clients.Adds client clients' where
  new := (insert_eq_ok_iff.1 h).1
  stored _ _ := find?_eq_some_iff_of_insert h

theorem swaps_of_rotate {retired : RefreshClient}
    (h : clients.rotate token client = .ok (some (retired, clients'))) :
    clients.Swaps token client clients' where
  old := ⟨retired, (rotate_eq_ok_some_iff.1 h).2.1⟩
  new := (rotate_eq_ok_some_iff.1 h).1
  stored _ _ := find?_eq_some_iff_of_rotate h

theorem UnderTokens.unexpired (h : clients.UnderTokens) (now : Instant) :
    (clients.unexpired now).UnderTokens := by
  intro token client hfind
  exact h token client (find?_unexpired_eq_some_iff.1 hfind).1

theorem UnderTokens.of_adds (h : clients.UnderTokens) (hadds : clients.Adds client clients') :
    clients'.UnderTokens := by
  intro token found hfind
  rcases (hadds.stored token found).1 hfind with ⟨rfl, rfl⟩ | hold
  · rfl
  · exact h token found hold

theorem UnderTokens.of_swaps (h : clients.UnderTokens)
    (hswaps : clients.Swaps token client clients') : clients'.UnderTokens := by
  intro other found hfind
  rcases (hswaps.stored other found).1 hfind with ⟨rfl, rfl⟩ | ⟨-, hold⟩
  · rfl
  · exact h other found hold

end Clients

/-! ## The calls of a store with faults -/

namespace Faulty

variable {α σ : Type} {store : Faulty σ} {call : StoreCall}

/-- A call succeeds when it has no fault and succeeds in the store itself. -/
theorem answer_eq_ok_iff {result : Except AuthorizationError α} {value : α} :
    store.answer call result = .ok value ↔ .failing call ∉ store.faults ∧ result = .ok value := by
  unfold answer
  by_cases h : Fault.failing call ∈ store.faults <;> simp [h]

variable {clients clients' : Faulty Clients} {client : RefreshClient} {token : String}
  {now : Instant}

/-- A client that is stored in spite of the faults is added. -/
theorem adds_of_insertClient (h : ClientStore.insertClient clients client = .ok clients') :
    .failing .insertClient ∉ clients.faults ∧ clients.base.Adds client clients'.base := by
  obtain ⟨hcall, hinsert⟩ := answer_eq_ok_iff.1 h
  cases hbase : clients.base.insert client with
  | error error =>
    simp only [ClientStore.insertClient, hbase, Except.map] at hinsert
    cases hinsert
  | ok base =>
    simp only [ClientStore.insertClient, hbase, Except.map] at hinsert
    cases hinsert
    exact ⟨hcall, Clients.adds_of_insert hbase⟩

/-- A token that is swapped in spite of the faults is replaced. -/
theorem swaps_of_rotateClient {retired : RefreshClient}
    (h : ClientStore.rotateClient clients token client = .ok (some (retired, clients'))) :
    .failing .rotateClient ∉ clients.faults ∧ clients.base.Swaps token client clients'.base := by
  obtain ⟨hcall, hrotate⟩ := answer_eq_ok_iff.1 h
  by_cases hlost : Fault.rotationLost ∈ clients.faults
  · rw [if_pos hlost] at hrotate
    cases hrotate
  · rw [if_neg hlost] at hrotate
    rcases hbase : clients.base.rotate token client with error | _ | ⟨_, base⟩
    · simp only [ClientStore.rotateClient, hbase, Except.map] at hrotate
      cases hrotate
    · simp only [ClientStore.rotateClient, hbase, Except.map, Option.map] at hrotate
      cases hrotate
    · simp only [ClientStore.rotateClient, hbase, Except.map, Option.map] at hrotate
      cases hrotate
      exact ⟨hcall, Clients.swaps_of_rotate hbase⟩

/-- A purge fails when it has a fault, and leaves the unexpired clients otherwise. -/
theorem removeExpired_eq (clients : Faulty Clients) (now : Instant) :
    ClientStore.removeExpired clients now =
      if .failing .removeExpired ∈ clients.faults
      then .error (.storage "injected remove_expired_clients")
      else .ok ((clients.base.removeExpired now).1,
        { clients with base := clients.base.unexpired now }) := rfl

end Faulty

namespace Session

/-! ## A call on sessions -/

/-- A call on sessions; the last token is the one that is generated for it. -/
inductive Call where
  | signIn (principalId : PrincipalId) (now : Instant) (token : String)
  | refresh (token : String) (now : Instant) (fresh : String)

/-- The calls that a call on sessions makes to the stores. -/
def Call.steps : Call → List StoreCall
  | .signIn _ _ _ => [.resolvePrincipal, .insertClient]
  | .refresh _ _ _ => [.removeExpired, .findClient, .resolvePrincipal, .rotateClient]

/-- What issues sessions: two stores, what can go wrong with them, and the settings. -/
structure Issuer (ι : Type) where
  identities : ι
  clients : Clients
  faults : List Fault
  settings : Settings

variable {ι : Type} [IdentityStore ι]

/-- The answer to a call, and what there is afterwards. -/
def Issuer.perform (issuer : Issuer ι) : Call → Except AccessError Session × Issuer ι
  | .signIn principalId now token =>
    match signIn (Faulty.mk issuer.identities issuer.faults) issuer.settings
      (Faulty.mk issuer.clients issuer.faults) principalId now token with
    | .error error => (.error error, issuer)
    | .ok (session, clients) => (.ok session, { issuer with clients := clients.base })
  | .refresh token now fresh =>
    let (answer, clients) := refresh (Faulty.mk issuer.identities issuer.faults) issuer.settings
      (Faulty.mk issuer.clients issuer.faults) token now fresh
    (answer, { issuer with clients := clients.base })

/-- The answer that a call may give, with the clients that are stored before and after it. -/
inductive Outcome (faults : List Fault) (before : Clients) :
    Call → Except AccessError Session → Clients → Prop where
  /-- The client of the session is stored, and nothing else changes. -/
  | signedIn {principalId : PrincipalId} {now : Instant} {token : String} {session : Session}
      {after : Clients} (htoken : session.client.refreshToken = token)
      (hadds : before.Adds session.client after) :
      Outcome faults before (.signIn principalId now token) (.ok session) after
  | notSignedIn {principalId : PrincipalId} {now : Instant} {token : String}
      {error : AccessError} :
      Outcome faults before (.signIn principalId now token) (.error error) before
  /-- The expired clients are removed, and the token is replaced by that of the session. -/
  | renewed {token : String} {now : Instant} {fresh : String} {session : Session}
      {after : Clients} (hfresh : session.client.refreshToken = fresh)
      (hswaps : (before.unexpired now).Swaps token session.client after) :
      Outcome faults before (.refresh token now fresh) (.ok session) after
  /-- The expired clients could not be removed. -/
  | notPurged {token : String} {now : Instant} {fresh : String}
      (hfailing : .failing .removeExpired ∈ faults) :
      Outcome faults before (.refresh token now fresh)
        (.error (.authorization (.storage "injected remove_expired_clients"))) before
  | notRenewed {token : String} {now : Instant} {fresh : String} {error : AccessError}
      (hpurge : .failing .removeExpired ∉ faults) :
      Outcome faults before (.refresh token now fresh) (.error error) (before.unexpired now)

variable {issuer : Issuer ι} {call : Call} {faults : List Fault} {before after : Clients}
  {answer : Except AccessError Session} {error : AccessError}

/-- Whatever the outcome, the clients stay under their tokens. -/
theorem Outcome.underTokens (h : Outcome faults before call answer after)
    (hbefore : before.UnderTokens) : after.UnderTokens := by
  cases h with
  | signedIn _ hadds => exact hbefore.of_adds hadds
  | notSignedIn => exact hbefore
  | renewed _ hswaps => exact (hbefore.unexpired _).of_swaps hswaps
  | notPurged _ => exact hbefore
  | notRenewed _ => exact hbefore.unexpired _

/-- A call that fails keeps every client that has not expired. -/
theorem Outcome.find?_of_error {token fresh other : String} {now : Instant}
    {client : RefreshClient}
    (h : Outcome faults before (.refresh token now fresh) (.error error) after)
    (hfind : before.find? other = some client) (hnow : now ≤ client.expiresAt) :
    after.find? other = some client := by
  cases h with
  | notPurged _ => exact hfind
  | notRenewed _ => exact Clients.find?_unexpired_eq_some_iff.2 ⟨hfind, hnow⟩

/-! ## Every call has one of the outcomes -/

section

variable {identities : Faulty ι} {settings : Settings} {clients clients' : Faulty Clients}
  {principalId : PrincipalId} {now : Instant} {token fresh : String} {session : Session}

/-- A sign-in that succeeds stores the client of the session. -/
theorem adds_of_signIn
    (h : signIn identities settings clients principalId now token = .ok (session, clients')) :
    session.client.refreshToken = token ∧ clients.base.Adds session.client clients'.base := by
  obtain ⟨principal, -, hissue, hinsert⟩ := signIn_eq_ok_iff.1 h
  obtain ⟨_, _, -, -, rfl⟩ := issue_eq_ok_iff.1 hissue
  exact ⟨rfl, (Faulty.adds_of_insertClient hinsert).2⟩

/-- An exchange that succeeds puts the client of the session in the place of the old one. -/
theorem swaps_of_exchange
    (h : exchange identities settings clients token now fresh = .ok (session, clients')) :
    session.client.refreshToken = fresh ∧
      clients.base.Swaps token session.client clients'.base := by
  obtain ⟨current, -, hrenew, hswap⟩ := exchange_eq_ok_iff.1 h
  obtain ⟨principal, -, hissue⟩ := renew_eq_ok_iff.1 hrenew
  obtain ⟨_, _, -, -, rfl⟩ := issue_eq_ok_iff.1 hissue
  obtain ⟨retired, hrotate⟩ := swap_eq_ok_iff_rotateClient.1 hswap
  exact ⟨rfl, (Faulty.swaps_of_rotateClient hrotate).2⟩

end

theorem outcome_signIn (issuer : Issuer ι) (principalId : PrincipalId) (now : Instant)
    (token : String) :
    Outcome issuer.faults issuer.clients (.signIn principalId now token)
      (issuer.perform (.signIn principalId now token)).1
      (issuer.perform (.signIn principalId now token)).2.clients := by
  simp only [Issuer.perform]
  cases h : signIn (Faulty.mk issuer.identities issuer.faults) issuer.settings
    (Faulty.mk issuer.clients issuer.faults) principalId now token with
  | error error => exact .notSignedIn
  | ok opened =>
    obtain ⟨htoken, hadds⟩ := adds_of_signIn h
    exact .signedIn htoken hadds

theorem outcome_refresh (issuer : Issuer ι) (token : String) (now : Instant) (fresh : String) :
    Outcome issuer.faults issuer.clients (.refresh token now fresh)
      (issuer.perform (.refresh token now fresh)).1
      (issuer.perform (.refresh token now fresh)).2.clients := by
  simp only [Issuer.perform]
  have hpurge := Faulty.removeExpired_eq (Faulty.mk issuer.clients issuer.faults) now
  by_cases hfailing : Fault.failing .removeExpired ∈ issuer.faults
  · rw [if_pos hfailing] at hpurge
    rw [refresh_of_removeExpired_error hpurge]
    exact .notPurged hfailing
  · rw [if_neg hfailing] at hpurge
    -- whatever fails from here on, the purge has been made
    cases h : exchange (Faulty.mk issuer.identities issuer.faults) issuer.settings
      (Faulty.mk (issuer.clients.unexpired now) issuer.faults) token now fresh with
    | error error =>
      rw [refresh_of_exchange_eq_error hpurge h]
      exact .notRenewed hfailing
    | ok exchanged =>
      rw [refresh_of_exchange_eq_ok hpurge h]
      obtain ⟨hfresh, hswaps⟩ := swaps_of_exchange h
      exact .renewed hfresh hswaps

theorem outcome_perform (issuer : Issuer ι) (call : Call) :
    Outcome issuer.faults issuer.clients call (issuer.perform call).1
      (issuer.perform call).2.clients := by
  cases call with
  | signIn principalId now token => exact outcome_signIn issuer principalId now token
  | refresh token now fresh => exact outcome_refresh issuer token now fresh

/-! ## Faults -/

/-- A session is returned only when no call to the stores has a fault. -/
theorem not_failing_of_perform {session : Session}
    (h : (issuer.perform call).1 = .ok session) :
    ∀ step ∈ call.steps, .failing step ∉ issuer.faults := by
  cases call with
  | signIn principalId now token =>
    simp only [Issuer.perform] at h
    cases hsignIn : signIn (Faulty.mk issuer.identities issuer.faults) issuer.settings
      (Faulty.mk issuer.clients issuer.faults) principalId now token with
    | error error =>
      rw [hsignIn] at h
      cases h
    | ok opened =>
      obtain ⟨_, hprincipal, -, hinsert⟩ := signIn_eq_ok_iff.1 hsignIn
      have hresolve := (Faulty.answer_eq_ok_iff.1 hprincipal).1
      have hstore := (Faulty.adds_of_insertClient hinsert).1
      simpa [Call.steps] using ⟨hresolve, hstore⟩
  | refresh token now fresh =>
    have hrefresh : (refresh (Faulty.mk issuer.identities issuer.faults) issuer.settings
      (Faulty.mk issuer.clients issuer.faults) token now fresh).1 = .ok session := h
    obtain ⟨_, purged, _, hpurge, hexchange⟩ := exists_exchange_of_refresh hrefresh
    obtain ⟨hremove, hleft⟩ := Faulty.answer_eq_ok_iff.1 hpurge
    -- the purge leaves the faults as they are
    cases hleft
    obtain ⟨_, hfound, hrenew, hswap⟩ := exchange_eq_ok_iff.1 hexchange
    obtain ⟨_, hprincipal, -⟩ := renew_eq_ok_iff.1 hrenew
    obtain ⟨_, hrotate⟩ := swap_eq_ok_iff_rotateClient.1 hswap
    have hfind := (Faulty.answer_eq_ok_iff.1 (lookUp_eq_ok_iff_findClient.1 hfound)).1
    have hresolve := (Faulty.answer_eq_ok_iff.1 hprincipal).1
    have hstore := (Faulty.swaps_of_rotateClient hrotate).1
    simpa [Call.steps] using ⟨hremove, hfind, hresolve, hstore⟩

/-! ## What a call leaves -/

/-- A call writes to the client store only. -/
theorem identities_perform (issuer : Issuer ι) (call : Call) :
    (issuer.perform call).2.identities = issuer.identities ∧
      (issuer.perform call).2.settings = issuer.settings ∧
      (issuer.perform call).2.faults = issuer.faults := by
  cases call with
  | signIn principalId now token =>
    simp only [Issuer.perform]
    cases signIn (Faulty.mk issuer.identities issuer.faults) issuer.settings
      (Faulty.mk issuer.clients issuer.faults) principalId now token <;> exact ⟨rfl, rfl, rfl⟩
  | refresh token now fresh => exact ⟨rfl, rfl, rfl⟩

/--
**What a call on sessions leaves.**  Whatever is stored, whatever the settings are and
whatever fails, a call has one of the outcomes above: a session with exactly the change of
the clients that it needs, or an error with no change but the purge.  The clients stay
under their tokens, a call that fails costs no token that was still good, the other store
is never written, and no session is returned when a call to a store has a fault.
-/
theorem perform_changes (issuer : Issuer ι) (hkeyed : issuer.clients.UnderTokens) (call : Call) :
    Outcome issuer.faults issuer.clients call (issuer.perform call).1
        (issuer.perform call).2.clients ∧
      (issuer.perform call).2.clients.UnderTokens ∧
      (∀ token now fresh error, call = .refresh token now fresh →
        (issuer.perform call).1 = .error error →
        ∀ other client, issuer.clients.find? other = some client → now ≤ client.expiresAt →
          (issuer.perform call).2.clients.find? other = some client) ∧
      (issuer.perform call).2.identities = issuer.identities ∧
      ((∃ step ∈ call.steps, .failing step ∈ issuer.faults) →
        ∃ error, (issuer.perform call).1 = .error error) := by
  have houtcome := outcome_perform issuer call
  refine ⟨houtcome, houtcome.underTokens hkeyed, ?_, (identities_perform issuer call).1, ?_⟩
  · rintro token now fresh error rfl herror other client hfind hnow
    rw [herror] at houtcome
    exact houtcome.find?_of_error hfind hnow
  · rintro ⟨step, hstep, hfailing⟩
    cases hanswer : (issuer.perform call).1 with
    | error error => exact ⟨error, rfl⟩
    | ok session => exact absurd hfailing (not_failing_of_perform hanswer step hstep)

/-- Two clients of `vasya`: one has expired at the start of 1970, the other never does. -/
def twoClients : Clients :=
  ⟨(Table.empty.insert "stale" ⟨Directory.vasya.id, "stale", .earliest⟩).insert "live"
    ⟨Directory.vasya.id, "live", .latest⟩⟩

theorem underTokens_twoClients : twoClients.UnderTokens := by
  have hempty : (Table.empty : Table String RefreshClient).KeyedBy RefreshClient.refreshToken :=
    Table.keyedBy_empty _
  unfold Clients.UnderTokens twoClients
  refine .insert (.insert hempty ?_) ?_ <;> rfl

/-- Tokens cannot be swapped. -/
def stuck : Issuer Directory :=
  ⟨Directory.registered, twoClients, [.failing .rotateClient], .default⟩

/-- The exchange fails in its last step: the stale client is gone, the token is still good. -/
theorem perform_changes_stuck :
    (stuck.perform (.refresh "live" .epoch "fresh")).1
        = .error (.authorization (.storage "injected rotate_client")) ∧
      (stuck.perform (.refresh "live" .epoch "fresh")).2.clients.find? "live"
        = some ⟨Directory.vasya.id, "live", .latest⟩ ∧
      (stuck.perform (.refresh "live" .epoch "fresh")).2.clients.find? "stale" = none := by
  have herror : (stuck.perform (.refresh "live" .epoch "fresh")).1
      = .error (.authorization (.storage "injected rotate_client")) := by rfl
  obtain ⟨-, -, hlive, -, -⟩ :=
    perform_changes stuck underTokens_twoClients (.refresh "live" .epoch "fresh")
  exact ⟨herror, hlive _ _ _ _ rfl herror "live" _ rfl (by decide), rfl⟩

/-- The issuer after calls, each with the faults that there are when it is made. -/
def Issuer.run (issuer : Issuer ι) (calls : List (List Fault × Call)) : Issuer ι :=
  calls.foldl (fun issuer event => ({ issuer with faults := event.1 }.perform event.2).2) issuer

/-- In every run, whatever fails, the clients stay under their tokens. -/
theorem underTokens_run (hkeyed : issuer.clients.UnderTokens)
    (calls : List (List Fault × Call)) :
    (issuer.run calls).clients.UnderTokens ∧
      (issuer.run calls).identities = issuer.identities := by
  induction calls generalizing issuer with
  | nil => exact ⟨hkeyed, rfl⟩
  | cons event rest ih =>
    have houtcome := outcome_perform { issuer with faults := event.1 } event.2
    obtain ⟨hclients, hidentities⟩ := ih (houtcome.underTokens hkeyed)
    exact ⟨hclients, hidentities.trans (identities_perform _ event.2).1⟩

end Session

end AccessControl
