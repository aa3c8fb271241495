/-
# Agreement of the two ways into the guard

A request with the claims of a session and a request of the session's principal get
the same answer at every instant of the claims' window, in every world that a run
leads to after the session was returned.  The claims name a role that was the
principal's when they were issued; as a registered principal stays what it is and
its role cannot be removed, it is the principal's role still, and a change of its
rights is seen by requests with claims that were issued before.
-/
import AccessControl.Proofs.Directory.Consistency
import AccessControl.Proofs.Directory.Permanence
import AccessControl.Proofs.Guard.Mediation
import AccessControl.Proofs.Session.Renewal

namespace AccessControl

/-! ## Runs that register every principal once -/

/-- The principals that a call registers get identifiers that are not in use. -/
def Directory.RegistersNew (d : Directory) : Operation → Prop
  | .insertPrincipal p => d.principals.find? p.id = none
  | .bootstrap _ supply _ => ∀ place, d.principals.find? (supply.principalId place) = none
  | _ => True

/-- A principal keeps what it is when new ones get new identifiers. -/
theorem Directory.find?_apply_of_registersNew {d : Directory} {id : PrincipalId} {p : Principal}
    (hfind : d.principals.find? id = some p) {operation : Operation}
    (hnew : d.RegistersNew operation) :
    (d.apply operation).principals.find? id = some p := by
  have hsupply : d.SuppliesNew operation := by
    cases operation with
    | bootstrap document supply now => exact hnew
    | _ => trivial
  have hkeep : ¬ d.Rebinds id operation := by
    cases operation with
    | insertPrincipal newcomer =>
      rintro ⟨rfl, -, -⟩
      have hnone : d.principals.find? newcomer.id = none := hnew
      rw [hnone] at hfind
      cases hfind
    | _ => exact fun hrebinds => hrebinds
  exact find?_apply_of_not_rebinds hfind hsupply hkeep

namespace Session

/--
The worlds that runs lead to in which every principal is registered once; nothing is
asked of the tokens and the role identifiers that are generated.
-/
inductive Orderly (settings : Settings) : World → Prop
  | start : Orderly settings .start
  | step {w : World} (event : Event) :
      Orderly settings w →
      (∀ operation, event = .directory operation → w.identities.RegistersNew operation) →
      Orderly settings (w.step settings event)

/-! ## What a call does to a world -/

/-- A call on the directory, a call that returns no session, or one that returns a session. -/
inductive Stepped (w : World) : Event → World → Prop
  | directory (operation : Directory.Operation) :
      Stepped w (.directory operation)
        ⟨w.identities.apply operation, w.clients, ⟨.directory operation, none⟩ :: w.log⟩
  | refused {event : Event} (clients : Clients) :
      Stepped w event ⟨w.identities, clients, ⟨event, none⟩ :: w.log⟩
  /-- The claims of a session name a stored principal and the role that it has. -/
  | opened {event : Event} {id : PrincipalId} {principal : Principal} {session : Session}
      (clients : Clients) :
      w.identities.principals.find? id = some principal →
      session.claims.subject = principal.id → session.claims.roleId = principal.roleId →
      Stepped w event ⟨w.identities, clients, ⟨event, some session⟩ :: w.log⟩

variable {settings : Settings} {w : World} {session : Session} {later : List Entry}

theorem stepped_step (settings : Settings) (w : World) (event : Event) :
    Stepped w event (w.step settings event) := by
  cases event with
  | directory operation => exact .directory operation
  | signIn principalId now token =>
    rw [World.step]
    cases hsignIn : Session.signIn w.identities settings w.clients principalId now token with
    | error error => exact .refused _
    | ok answer =>
      obtain ⟨principal, hprincipal, hissue, -⟩ := signIn_eq_ok_iff.1 hsignIn
      obtain ⟨_, _, -, -, hsession⟩ := issue_eq_ok_iff.1 hissue
      have hfind := Directory.resolvePrincipal_eq_ok_iff.1 hprincipal
      exact .opened _ hfind (by rw [hsession]) (by rw [hsession])
  | refresh token now fresh =>
    rw [World.step]
    cases hexchange : exchange w.identities settings (w.clients.unexpired now) token now fresh with
    | error error =>
      rw [refresh_of_exchange_error hexchange]
      exact .refused _
    | ok answer =>
      rw [refresh_of_exchange_ok hexchange]
      obtain ⟨current, -, hrenew, -⟩ := exchange_eq_ok_iff.1 hexchange
      obtain ⟨principal, hprincipal, hissue⟩ := renew_eq_ok_iff.1 hrenew
      obtain ⟨_, _, -, -, hsession⟩ := issue_eq_ok_iff.1 hissue
      have hfind := Directory.resolvePrincipal_eq_ok_iff.1 hprincipal
      exact .opened _ hfind (by rw [hsession]) (by rw [hsession])

/-! ## Claims stay true -/

/-- The claims of a session say of a stored principal the role that it has. -/
def Current (d : Directory) (claims : AccessClaims) : Prop :=
  ∃ principal, d.principals.find? claims.subject = some principal ∧
    principal.roleId = claims.roleId

/-- The directory is consistent, and the claims of every session returned so far are current. -/
structure Faithful (w : World) : Prop where
  consistent : w.identities.Consistent
  current : ∀ session later, Returned w.log session later → Current w.identities session.claims

theorem Faithful.start : Faithful .start where
  consistent := Directory.consistent_empty
  current _ _ hreturned := absurd hreturned not_returned_nil

theorem Faithful.step (h : Faithful w) {event : Event}
    (hnew : ∀ operation, event = .directory operation → w.identities.RegistersNew operation) :
    Faithful (w.step settings event) := by
  have hstepped := stepped_step settings w event
  generalize w.step settings event = next at hstepped ⊢
  cases hstepped with
  | directory operation =>
    refine ⟨h.consistent.apply operation, ?_⟩
    intro session later hreturned
    rcases returned_cons_iff.1 hreturned with ⟨-, hopened⟩ | ⟨rest, -, hrest⟩
    · cases hopened
    · obtain ⟨principal, hfind, hrole⟩ := h.current session rest hrest
      exact ⟨principal, Directory.find?_apply_of_registersNew hfind (hnew operation rfl), hrole⟩
  | refused clients =>
    refine ⟨h.consistent, ?_⟩
    intro session later hreturned
    rcases returned_cons_iff.1 hreturned with ⟨-, hopened⟩ | ⟨rest, -, hrest⟩
    · cases hopened
    · exact h.current session rest hrest
  | opened clients hfind hsubject hrole =>
    refine ⟨h.consistent, ?_⟩
    intro other later hreturned
    rcases returned_cons_iff.1 hreturned with ⟨-, hopened⟩ | ⟨rest, -, hrest⟩
    · cases hopened
      -- the principal is stored under its own identifier, which the claims name
      have hid := h.consistent.principal_id _ _ hfind
      exact ⟨_, by rw [hsubject, hid]; exact hfind, hrole.symm⟩
    · exact h.current other rest hrest

theorem Orderly.faithful (hw : Orderly settings w) : Faithful w := by
  induction hw with
  | start => exact .start
  | step event _ hnew ih => exact ih.step hnew

end Session

/-! ## Requests whose role is known -/

namespace Guard

variable {σ : Type} [IdentityStore σ] {store : σ} {role : Role} {now : Instant}

/-- With valid claims whose role is resolved, the answer is that of the names and the role. -/
theorem require_of_resolved {c : AccessClaims} (hholds : c.Holds now)
    (hrole : IdentityStore.resolveRole store c.roleId = .ok role) (resource action : String) :
    require store c now resource action
      = (Permission.ofNames resource action).mapError .authorization >>= grant c.subject role := by
  unfold require
  rw [AccessClaims.validate_eq_ok_iff.2 hholds, hrole]
  rfl

/-- With a principal and a role that are resolved, the answer is that of the names and the role. -/
theorem requirePrincipal_of_resolved {principalId : PrincipalId} {principal : Principal}
    (hprincipal : IdentityStore.resolvePrincipal store principalId = .ok principal)
    (hrole : IdentityStore.resolveRole store principal.roleId = .ok role)
    (resource action : String) :
    requirePrincipal store principalId resource action
      = (Permission.ofNames resource action).mapError .authorization >>=
          grant principal.id role := by
  unfold requirePrincipal
  rw [hprincipal]
  show _ >>= (fun permission =>
    (IdentityStore.resolveRole store principal.roleId).mapError .authorization >>= fun role =>
      grant principal.id role permission) = _
  rw [hrole]
  rfl

/-- Once principal and role are resolved, only names and matrix can be what is wrong. -/
theorem cause_of_resolved {principalId : PrincipalId} {error : AccessError}
    {resource action : String}
    (h : (Permission.ofNames resource action).mapError .authorization >>= grant principalId role
      = .error error) :
    (∃ cause, error = .authorization (.invalidRequest cause)) ∨
      ∃ p, error = .authorization (.permissionDenied p) := by
  rcases bind_eq_error_iff.1 h with hnames | ⟨p, -, hgrant⟩
  · obtain ⟨_, hnamesError, rfl⟩ := mapError_eq_error_iff.1 hnames
    obtain ⟨cause, -, rfl⟩ := Permission.ofNames_eq_error_iff.1 hnamesError
    exact .inl ⟨cause, rfl⟩
  · exact .inr ⟨p, (grant_eq_error_iff.1 hgrant).2⟩

end Guard

/-! ## The two ways agree -/

namespace Session

variable {settings : Settings} {w : World} {session : Session} {later : List Entry}
  {now : Instant}

/-- The role that the claims of a returned session name is stored. -/
theorem Faithful.exists_resolveRole (h : Faithful w) (hsession : Returned w.log session later) :
    ∃ role, IdentityStore.resolveRole w.identities session.claims.roleId = .ok role := by
  obtain ⟨principal, hfind, hrole⟩ := h.current session later hsession
  obtain ⟨role, hstored, -⟩ := h.consistent.principal_role _ principal hfind
  exact ⟨role, Directory.resolveRole_eq_ok_iff.2 (hrole ▸ hstored)⟩

/--
**Claims of a session and its principal get the same answers.**  In every world after a
session was returned, at every instant of the window of its claims, a request with the
claims gets the answer that the principal gets, which is never that a role or a
principal is unknown; and as soon as the role is edited, the claims give what the new
rights allow.
-/
theorem require_eq_requirePrincipal (hw : Orderly settings w)
    (hsession : Returned w.log session later) (hholds : session.claims.Holds now) :
    (∀ resource action,
      Guard.require w.identities session.claims now resource action
          = Guard.requirePrincipal w.identities session.claims.subject resource action ∧
        ∀ error, Guard.require w.identities session.claims now resource action = .error error →
          (∀ id, error ≠ .authorization (.roleNotFound id)) ∧
            ∀ id, error ≠ .authorization (.unknownPrincipal id)) ∧
    ∀ expected accessRights time stored identities,
      w.identities.updateRole session.claims.roleId expected accessRights time
        = .ok (stored, identities) →
      ∀ p : Permission,
        (∃ g, Guard.require identities session.claims now p.resource.name p.action.name = .ok g) ↔
          accessRights.allows p.resource p.action = true := by
  have h := hw.faithful
  obtain ⟨principal, hfind, hroleId⟩ := h.current session later hsession
  have hid := h.consistent.principal_id _ principal hfind
  obtain ⟨role, hrole⟩ := h.exists_resolveRole hsession
  have hprincipal := Directory.resolvePrincipal_eq_ok_iff.2 hfind
  constructor
  · intro resource action
    have hclaims := Guard.require_of_resolved hholds hrole resource action
    rw [← hroleId] at hrole
    have hknown := Guard.requirePrincipal_of_resolved hprincipal hrole resource action
    refine ⟨by rw [hclaims, hknown, hid], ?_⟩
    intro error herror
    rw [hclaims] at herror
    rcases Guard.cause_of_resolved herror with ⟨cause, rfl⟩ | ⟨p, rfl⟩
    · exact ⟨by rintro id ⟨⟩, by rintro id ⟨⟩⟩
    · exact ⟨by rintro id ⟨⟩, by rintro id ⟨⟩⟩
  · intro expected accessRights time stored identities hupdate p
    obtain ⟨hstored, hrights⟩ := Directory.resolveRole_of_updateRole hupdate
    rw [Guard.require_of_resolved hholds hstored, Permission.ofNames_eq_ok_iff.2 ⟨rfl, rfl⟩]
    show (∃ g, Guard.grant session.claims.subject stored p = .ok g) ↔ _
    simp only [Guard.grant_eq_ok_iff, hrights, exists_and_left, exists_eq, and_true]

/-! ## Claims of a session that was returned before an edit -/

theorem orderly_signedIn : Orderly .default signedIn := by
  refine .step _ (.step _ (.step _ .start ?_) ?_) ?_
  · rintro operation ⟨⟩
    trivial
  · rintro operation ⟨⟩
    rfl
  · rintro operation ⟨⟩

/-- The session of `vasya`, as it was returned. -/
def sessionOfVasya : Session :=
  ⟨⟨Directory.vasya.id, Directory.normalRole.id, .epoch, ⟨1200000000000, by decide, by decide⟩⟩,
    ⟨Directory.vasya.id, "first", ⟨86400000000000, by decide, by decide⟩⟩⟩

/-- The law for this session, when the role of `vasya` is given all rights after it was opened. -/
theorem require_signedIn :
    Orderly .default signedIn ∧ Returned signedIn.log sessionOfVasya [] ∧
      sessionOfVasya.claims.Holds .epoch ∧
      Guard.require signedIn.identities sessionOfVasya.claims .epoch "openers" "view"
          = Guard.requirePrincipal signedIn.identities Directory.vasya.id "openers" "view" ∧
      ∃ stored identities,
        signedIn.identities.updateRole Directory.normalRole.id .any .full .epoch
            = .ok (stored, identities) ∧
          ∃ g, Guard.require identities sessionOfVasya.claims .epoch "openers" "view" = .ok g := by
  have hreturned : Returned signedIn.log sessionOfVasya [] := ⟨_, _, rfl⟩
  have hholds : sessionOfVasya.claims.Holds .epoch := ⟨by decide, by decide⟩
  obtain ⟨hsame, hedit⟩ := require_eq_requirePrincipal orderly_signedIn hreturned hholds
  refine ⟨orderly_signedIn, hreturned, hholds, (hsame "openers" "view").1, _, _, rfl, ?_⟩
  exact (hedit .any .full .epoch _ _ rfl ⟨.openers, .view⟩).2 rfl

end Session

end AccessControl
