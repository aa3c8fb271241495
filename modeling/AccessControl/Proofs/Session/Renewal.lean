/-
# Which tokens can be exchanged

The client store holds a token exactly as long as the log says that the token is
still good (`Agrees`), whatever the order of the calls and of their instants.  So
the answer to an exchange can be read off the log.
-/
import AccessControl.Proofs.Directory.Consistency
import AccessControl.Proofs.Directory.Permanence
import AccessControl.Proofs.Session.Chains

namespace AccessControl.Session

variable {settings : Settings} {w : World} {later : List Entry} {event : Event}
  {session : Session} {client : RefreshClient} {token fresh : String} {now : Instant}
  {principalId : PrincipalId}

/-! ## The store agrees with the log -/

/-- The client store holds the clients whose tokens are good, all of registered principals. -/
structure Agrees (w : World) : Prop where
  traced : Traced w.log
  stored : ∀ token client, w.clients.find? token = some client ↔ Live w.log token client
  registered : ∀ session later, Returned w.log session later →
    ∃ p, w.identities.principals.find? session.client.principalId = some p
  consistent : w.identities.Consistent

theorem Agrees.start : Agrees .start where
  traced := .nil
  stored token client := by
    constructor
    · intro hfind
      cases hfind
    · rintro ⟨_, _, hreturned, -⟩
      exact absurd hreturned not_returned_nil
  registered _ _ hreturned := absurd hreturned not_returned_nil
  consistent := Directory.consistent_empty

/-- The tokens that are left after a purge are those that are still good after it. -/
theorem Agrees.find?_unexpired_iff (h : Agrees w) :
    (w.clients.unexpired now).find? token = some client ↔
      Live w.log token client ∧ now ≤ client.expiresAt := by
  rw [Clients.find?_unexpired_eq_some_iff, h.stored]

/-- A call that returns no session may write to the directory and remove expired clients. -/
theorem Agrees.refused (h : Agrees w) {identities : Directory} {clients : Clients}
    (hstored : ∀ token client, clients.find? token = some client ↔
      w.clients.find? token = some client ∧
        ∀ time, event.purge = some time → time ≤ client.expiresAt)
    (hregistered : ∀ id, (∃ p, w.identities.principals.find? id = some p) →
      ∃ p, identities.principals.find? id = some p)
    (hconsistent : identities.Consistent) :
    Agrees ⟨identities, clients, ⟨event, none⟩ :: w.log⟩ where
  traced := .refused event h.traced
  stored token client := by rw [hstored, h.stored, live_refused_iff]
  registered session later hreturned := by
    rcases returned_cons_iff.1 hreturned with ⟨-, hopened⟩ | ⟨rest, -, hrest⟩
    · cases hopened
    · exact hregistered _ (h.registered session rest hrest)
  consistent := hconsistent

/-- A call that does not concern the clients leaves the tokens as they are. -/
theorem Agrees.kept (h : Agrees w) {identities : Directory} (hpurge : event.purge = none)
    (hregistered : ∀ id, (∃ p, w.identities.principals.find? id = some p) →
      ∃ p, identities.principals.find? id = some p)
    (hconsistent : identities.Consistent) :
    Agrees ⟨identities, w.clients, ⟨event, none⟩ :: w.log⟩ := by
  refine h.refused ?_ hregistered hconsistent
  intro token client
  rw [hpurge]
  constructor
  · intro hfind
    exact ⟨hfind, by rintro time ⟨⟩⟩
  · rintro ⟨hfind, -⟩
    exact hfind

/-- A call that returns a session issues it to a registered principal. -/
theorem Agrees.returned (h : Agrees w) {clients : Clients}
    (hnew : ¬ Issued w.log session.client.refreshToken) (hfollows : Follows w.log event session)
    (hstored : ∀ token client, clients.find? token = some client ↔
      Live (⟨event, some session⟩ :: w.log) token client)
    (hregistered : ∃ p, w.identities.principals.find? session.client.principalId = some p) :
    Agrees ⟨w.identities, clients, ⟨event, some session⟩ :: w.log⟩ where
  traced := .returned h.traced hnew hfollows
  stored := hstored
  registered other later hreturned := by
    rcases returned_cons_iff.1 hreturned with ⟨-, hopened⟩ | ⟨rest, -, hrest⟩
    · cases hopened
      exact hregistered
    · exact h.registered other rest hrest
  consistent := h.consistent

/-- The principal for whom a session is issued is registered, under its own identifier. -/
theorem Agrees.principal (h : Agrees w) {id : PrincipalId} {principal : Principal}
    (hprincipal : IdentityStore.resolvePrincipal w.identities id = .ok principal) :
    w.identities.principals.find? id = some principal ∧ principal.id = id := by
  have hfind := Directory.resolvePrincipal_eq_ok_iff.1 hprincipal
  exact ⟨hfind, h.consistent.principal_id _ _ hfind⟩

theorem Agrees.signIn (h : Agrees w) {clients : Clients} (hnew : ¬ Issued w.log token)
    (hsignIn : Session.signIn w.identities settings w.clients principalId now token
      = .ok (session, clients)) :
    Agrees ⟨w.identities, clients, ⟨.signIn principalId now token, some session⟩ :: w.log⟩ := by
  obtain ⟨principal, hprincipal, hissue, hinsert⟩ := signIn_eq_ok_iff.1 hsignIn
  obtain ⟨hfind, rfl⟩ := h.principal hprincipal
  obtain ⟨_, _, -, -, rfl⟩ := issue_eq_ok_iff.1 hissue
  refine h.returned hnew rfl ?_ ⟨principal, hfind⟩
  intro other client
  rw [Clients.find?_eq_some_iff_of_insert hinsert, live_signIn_iff h.traced hnew, h.stored]

theorem Agrees.refresh (h : Agrees w) {clients : Clients} (hnew : ¬ Issued w.log fresh)
    (hexchange : exchange w.identities settings (w.clients.unexpired now) token now fresh
      = .ok (session, clients)) :
    Agrees ⟨w.identities, clients, ⟨.refresh token now fresh, some session⟩ :: w.log⟩ := by
  obtain ⟨current, hfound, hrenew, hswap⟩ := exchange_eq_ok_iff.1 hexchange
  -- the client that was found is that of a session that was returned
  rw [lookUp_eq_ok_iff, h.find?_unexpired_iff] at hfound
  obtain ⟨hlive, -⟩ := hfound
  have hissued := hlive.issued
  obtain ⟨previous, later, hreturned, rfl, htoken, -, -⟩ := hlive
  obtain ⟨principal, hprincipal, hissue⟩ := renew_eq_ok_iff.1 hrenew
  obtain ⟨hfind, hid⟩ := h.principal hprincipal
  obtain ⟨_, _, -, -, rfl⟩ := issue_eq_ok_iff.1 hissue
  refine h.returned hnew ⟨previous, later, hreturned, htoken, hid.symm⟩ ?_ ⟨principal, ?_⟩
  · intro other client
    rw [find?_eq_some_iff_of_swap hswap, live_refresh_iff h.traced hnew hissued,
      h.find?_unexpired_iff]
  · rw [hid]
    exact hfind

/-- A call whose token is new keeps the stores in agreement with the log. -/
theorem Agrees.step (h : Agrees w)
    (hnew : ∀ token, event.generated = some token → ¬ Issued w.log token) :
    Agrees (w.step settings event) := by
  cases event with
  | directory operation =>
    exact h.kept rfl (fun _ hid => Directory.registered_apply hid operation)
      (h.consistent.apply operation)
  | signIn principalId now token =>
    rw [World.step]
    cases hsignIn : Session.signIn w.identities settings w.clients principalId now token with
    | error error => exact h.kept rfl (fun _ hid => hid) h.consistent
    | ok answer => exact h.signIn (hnew token rfl) hsignIn
  | refresh token now fresh =>
    rw [World.step]
    cases hexchange : exchange w.identities settings (w.clients.unexpired now) token now fresh with
    | error error =>
      -- the purge has been made all the same
      rw [refresh_of_exchange_error hexchange]
      refine h.refused ?_ (fun _ hid => hid) h.consistent
      intro token client
      rw [Clients.find?_unexpired_eq_some_iff]
      constructor
      · rintro ⟨hfind, hnow⟩
        exact ⟨hfind, by rintro time ⟨⟩; exact hnow⟩
      · rintro ⟨hfind, htimes⟩
        exact ⟨hfind, htimes now rfl⟩
    | ok answer =>
      rw [refresh_of_exchange_ok hexchange]
      exact h.refresh (hnew fresh rfl) hexchange

/-- In every run, the client store holds the clients whose tokens are good. -/
theorem Reached.agrees (hw : Reached settings w) : Agrees w := by
  induction hw with
  | start => exact .start
  | step event _ hnew ih => exact ih.step hnew

/-! ## The answer to an exchange -/

/-- What an exchange in a world answers. -/
def World.answer (settings : Settings) (w : World) (token : String) (now : Instant)
    (fresh : String) : Except AccessError Session :=
  (Session.refresh w.identities settings w.clients token now fresh).1

/-- A token is left by a purge exactly when it was issued, is not spent and is in time. -/
theorem Agrees.exists_find?_unexpired_iff (h : Agrees w) :
    (∃ client, (w.clients.unexpired now).find? token = some client) ↔
      Issued w.log token ∧ ¬ Spent w.log token ∧ InTime w.log token now := by
  constructor
  · rintro ⟨client, hfind⟩
    obtain ⟨hlive, hnow⟩ := h.find?_unexpired_iff.1 hfind
    refine ⟨hlive.issued, hlive.not_spent, ?_⟩
    intro session later hreturned htoken time htime
    -- the session that is still good is the only one with this token
    obtain ⟨issued, since, hissued, rfl, htoken', -, htimes⟩ := hlive
    obtain ⟨rfl, rfl⟩ := h.traced.unique hissued hreturned (htoken'.trans htoken.symm)
    rcases List.mem_cons.1 htime with rfl | hold
    · exact hnow
    · exact htimes time hold
  · rintro ⟨⟨session, later, hreturned, htoken⟩, hunspent, hintime⟩
    have htimes := hintime session later hreturned htoken
    refine ⟨session.client, h.find?_unexpired_iff.2 ⟨⟨session, later, hreturned, rfl, htoken,
      hunspent, ?_⟩, htimes now List.mem_cons_self⟩⟩
    intro time htime
    exact htimes time (List.mem_cons_of_mem _ htime)

/-- A token that a purge does not leave is refused. -/
theorem answer_of_find?_eq_none (h : (w.clients.unexpired now).find? token = none) :
    w.answer settings token now fresh = .error (.unauthorized .knownRefreshToken) := by
  have hexchange : exchange w.identities settings (w.clients.unexpired now) token now fresh
      = .error (.unauthorized .knownRefreshToken) := by
    unfold exchange
    rw [lookUp_of_none h]
    rfl
  rw [World.answer, refresh_of_exchange_error hexchange]

/-- An exchange for a new token succeeds when the old one is left and can be renewed. -/
theorem Agrees.answer_eq_ok_iff (h : Agrees w) (hfresh : ¬ Issued w.log fresh) :
    w.answer settings token now fresh = .ok session ↔
      ∃ current, (w.clients.unexpired now).find? token = some current ∧
        renew w.identities settings current now fresh = .ok session := by
  constructor
  · intro hanswer
    cases hexchange : exchange w.identities settings (w.clients.unexpired now) token now fresh with
    | error error =>
      rw [World.answer, refresh_of_exchange_error hexchange] at hanswer
      cases hanswer
    | ok answer =>
      rw [World.answer, refresh_of_exchange_ok hexchange] at hanswer
      cases hanswer
      obtain ⟨current, hfound, hrenew, -⟩ := exchange_eq_ok_iff.1 hexchange
      exact ⟨current, lookUp_eq_ok_iff.1 hfound, hrenew⟩
  · rintro ⟨current, hfind, hrenew⟩
    obtain ⟨principal, -, hissue⟩ := renew_eq_ok_iff.1 hrenew
    -- nothing is stored under a token that was not issued
    have hnew : (w.clients.unexpired now).find? session.client.refreshToken = none := by
      obtain ⟨_, _, -, -, rfl⟩ := issue_eq_ok_iff.1 hissue
      rw [Option.eq_none_iff_forall_ne_some]
      intro client hstored
      exact hfresh (h.find?_unexpired_iff.1 hstored).1.issued
    obtain ⟨clients, hswap⟩ := exists_swap_eq_ok hnew hfind
    have hexchange := exchange_eq_ok_iff.2 ⟨current, lookUp_eq_ok_iff.2 hfind, hrenew, hswap⟩
    rw [World.answer, refresh_of_exchange_ok hexchange]

/-- The principal of a client that a purge leaves is registered. -/
theorem Agrees.exists_resolvePrincipal (h : Agrees w)
    (hfind : (w.clients.unexpired now).find? token = some client) :
    ∃ p, w.identities.resolvePrincipal client.principalId = .ok p := by
  obtain ⟨⟨_, _, hreturned, rfl, -, -, -⟩, -⟩ := h.find?_unexpired_iff.1 hfind
  obtain ⟨p, hp⟩ := h.registered _ _ hreturned
  exact ⟨p, Directory.resolvePrincipal_eq_ok_iff.2 hp⟩

/--
**Which tokens can be exchanged.**  At every point of a run, an exchange returns a session
exactly when its token was issued, was not exchanged since, and is later than no exchange
that was tried since, this one included, and both windows can be represented.  The session
is for the principal who signed in at the start of the chain of the token, with the role
that the principal has in the directory now.
-/
theorem answer_of_reached (hw : Reached settings w) (hfresh : ¬ Issued w.log fresh) :
    ((∃ session, w.answer settings token now fresh = .ok session) ↔
      (Issued w.log token ∧ ¬ Spent w.log token ∧ InTime w.log token now) ∧
        (now.add? settings.accessTokenLifetime).isSome ∧ (now.add? (.minutes 40)).isSome) ∧
    (∀ session, w.answer settings token now fresh = .ok session →
      ∃ principal, (∀ id, StartedBy w.log token id ↔ id = principal.id) ∧
        w.identities.resolvePrincipal principal.id = .ok principal ∧
        session.claims.subject = principal.id ∧ session.client.principalId = principal.id ∧
        session.claims.roleId = principal.roleId) ∧
    (¬ (Issued w.log token ∧ ¬ Spent w.log token ∧ InTime w.log token now) →
      w.answer settings token now fresh = .error (.unauthorized .knownRefreshToken)) := by
  have h := hw.agrees
  refine ⟨?_, ?_, ?_⟩
  · rw [← h.exists_find?_unexpired_iff]
    constructor
    · rintro ⟨session, hanswer⟩
      obtain ⟨current, hfind, hrenew⟩ := (h.answer_eq_ok_iff hfresh).1 hanswer
      exact ⟨⟨current, hfind⟩, (exists_renew_eq_ok_iff.1 ⟨session, hrenew⟩).2⟩
    · rintro ⟨⟨current, hfind⟩, hwindows⟩
      have hrenew : ∃ session, renew w.identities settings current now fresh = .ok session :=
        exists_renew_eq_ok_iff.2 ⟨h.exists_resolvePrincipal hfind, hwindows⟩
      obtain ⟨session, hrenew⟩ := hrenew
      exact ⟨session, (h.answer_eq_ok_iff hfresh).2 ⟨current, hfind, hrenew⟩⟩
  · intro session hanswer
    obtain ⟨current, hfind, hrenew⟩ := (h.answer_eq_ok_iff hfresh).1 hanswer
    obtain ⟨principal, hprincipal, hissue⟩ := renew_eq_ok_iff.1 hrenew
    obtain ⟨_, _, -, -, rfl⟩ := issue_eq_ok_iff.1 hissue
    obtain ⟨-, hid⟩ := h.principal hprincipal
    obtain ⟨⟨previous, later, hreturned, rfl, htoken, -, -⟩, -⟩ := h.find?_unexpired_iff.1 hfind
    refine ⟨principal, ?_, ?_, rfl, rfl, rfl⟩
    · intro id
      constructor
      · intro hstart
        rw [hid]
        exact (h.traced.principalId_of_startedBy hstart hreturned htoken).symm
      · rintro rfl
        rw [hid, ← htoken]
        exact h.traced.startedBy hreturned
    · rw [hid]
      exact hprincipal
  · intro hbad
    apply answer_of_find?_eq_none
    rw [Option.eq_none_iff_forall_ne_some]
    intro client hfind
    exact hbad (h.exists_find?_unexpired_iff.1 ⟨client, hfind⟩)

/-! ## A token that is exchanged -/

/-- The world in which `vasya` has signed in. -/
def signedIn : World :=
  ((World.start.step .default (.directory (.insertRole Directory.normalRole))).step .default
    (.directory (.insertPrincipal Directory.vasya))).step .default
    (.signIn Directory.vasya.id .epoch "first")

theorem reached_signedIn : Reached .default signedIn := by
  refine .step _ (.step _ (.step _ .start ?_) ?_) ?_
  · rintro token ⟨⟩
  · rintro token ⟨⟩
  · rintro token ⟨⟩
    decide

/-- The law where `vasya` exchanges the token of the first session. -/
theorem answer_signedIn :
    Reached .default signedIn ∧ ¬ Issued signedIn.log "second" ∧
      (Issued signedIn.log "first" ∧ ¬ Spent signedIn.log "first" ∧
        InTime signedIn.log "first" .epoch) ∧
      ∃ session, signedIn.answer .default "first" .epoch "second" = .ok session ∧
        StartedBy signedIn.log "first" session.client.principalId := by
  have hfresh : ¬ Issued signedIn.log "second" := by decide
  obtain ⟨hiff, hsession, -⟩ := answer_of_reached reached_signedIn hfresh
  have hanswer : ∃ session, signedIn.answer .default "first" .epoch "second" = .ok session :=
    ⟨_, rfl⟩
  have hgood := (hiff.1 hanswer).1
  obtain ⟨session, hanswer⟩ := hanswer
  obtain ⟨principal, hstart, -, -, hprincipal, -⟩ := hsession session hanswer
  exact ⟨reached_signedIn, hfresh, hgood, session, hanswer, (hstart _).2 hprincipal⟩

end AccessControl.Session
