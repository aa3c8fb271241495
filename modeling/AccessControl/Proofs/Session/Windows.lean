/-
# Windows of validity

Claims and refresh clients are issued for a lifetime from an instant on.  The end of
the window is the exact sum of the two, to the nanosecond, and there is a window exactly
when this sum lies between the first and the last instant.  The end itself no longer
belongs to the window of the claims, while a refresh client can still be exchanged then.
-/
import AccessControl.Clients
import AccessControl.Proofs.Guard.Mediation

namespace AccessControl

/-! ## The end of a window -/

namespace Instant

variable {now : Instant} {lifetime : Duration}

/-- The count of nanoseconds at which a window ends, whether it is that of an instant or not. -/
def ending (now : Instant) (lifetime : Duration) : Int := now.nanoseconds + lifetime.nanoseconds

/-- The end of a window lies between the first and the last instant. -/
def Reaches (now : Instant) (lifetime : Duration) : Prop :=
  earliest.nanoseconds ≤ now.ending lifetime ∧ now.ending lifetime ≤ latest.nanoseconds

/-- A duration can be added exactly when the sum is one of an instant. -/
theorem exists_add?_iff : (∃ u, now.add? lifetime = some u) ↔ now.Reaches lifetime := by
  simp only [add?_eq_some_iff]
  constructor
  · rintro ⟨u, hu⟩
    show leastNanoseconds ≤ _ + _ ∧ _ + _ ≤ greatestNanoseconds
    rw [← hu]
    exact ⟨u.least_le, u.le_greatest⟩
  · rintro ⟨hleast, hgreatest⟩
    exact ⟨⟨now.ending lifetime, hleast, hgreatest⟩, rfl⟩

/-- What is made of the end of a window, unless the end cannot be represented. -/
def endingWith {α : Type} (now : Instant) (lifetime : Duration) (make : Instant → α) :
    Except TokenError α :=
  match now.add? lifetime with
  | none => .error .invalidTimeWindow
  | some expiresAt => .ok (make expiresAt)

variable {α : Type} {make : Instant → α}

theorem endingWith_eq_ok_iff {a : α} :
    now.endingWith lifetime make = .ok a ↔
      ∃ expiresAt : Instant, expiresAt.nanoseconds = now.ending lifetime ∧ make expiresAt = a := by
  show _ ↔ ∃ u : Instant, u.nanoseconds = now.nanoseconds + lifetime.nanoseconds ∧ _
  simp only [← add?_eq_some_iff]
  unfold endingWith
  cases now.add? lifetime with
  | none => simp
  | some expiresAt => simp

theorem exists_endingWith_eq_ok_iff :
    (∃ a, now.endingWith lifetime make = .ok a) ↔ now.Reaches lifetime := by
  rw [← exists_add?_iff]
  unfold endingWith
  cases now.add? lifetime with
  | none => simp
  | some expiresAt => simp

theorem endingWith_eq_error_iff {error : TokenError} :
    now.endingWith lifetime make = .error error ↔
      ¬ now.Reaches lifetime ∧ error = .invalidTimeWindow := by
  rw [← exists_add?_iff]
  unfold endingWith
  cases now.add? lifetime with
  | none => simp [eq_comm]
  | some expiresAt => simp

end Instant

/-! ## Issued claims -/

namespace AccessClaims

variable {subject : PrincipalId} {roleId : RoleId} {now : Instant} {lifetime : Duration}
  {claims : AccessClaims}

theorem issue_eq_endingWith :
    issue subject roleId now lifetime
      = now.endingWith lifetime fun expiresAt => ⟨subject, roleId, now, expiresAt⟩ := rfl

/-- Claims are issued when their end can be represented, and then they end exactly there. -/
theorem issue_eq_ok_iff :
    issue subject roleId now lifetime = .ok claims ↔
      claims.subject = subject ∧ claims.roleId = roleId ∧ claims.issuedAt = now ∧
        claims.expiresAt.nanoseconds = now.ending lifetime := by
  rw [issue_eq_endingWith, Instant.endingWith_eq_ok_iff]
  constructor
  · rintro ⟨expiresAt, hend, rfl⟩
    exact ⟨rfl, rfl, rfl, hend⟩
  · rintro ⟨rfl, rfl, rfl, hend⟩
    exact ⟨claims.expiresAt, hend, rfl⟩

/-- What claims that are issued at an instant for a lifetime come to at every instant. -/
structure ValidFor (claims : AccessClaims) (now : Instant) (lifetime : Duration) : Prop where
  /-- The start belongs to the window, its end does not. -/
  valid : ∀ t, claims.validate t = .ok () ↔ now ≤ t ∧ t.nanoseconds < now.ending lifetime
  /-- Without a lifetime there is no window. -/
  empty : lifetime.nanoseconds ≤ 0 → ∀ t, claims.validate t = .error .invalidTimeWindow
  early : 0 < lifetime.nanoseconds → ∀ t, claims.validate t = .error .notYetValid ↔ t < now
  late : 0 < lifetime.nanoseconds →
    ∀ t, claims.validate t = .error .expired ↔ now.ending lifetime ≤ t.nanoseconds

theorem validFor_of_issue (h : issue subject roleId now lifetime = .ok claims) :
    claims.ValidFor now lifetime := by
  obtain ⟨-, -, hstart, hend⟩ := issue_eq_ok_iff.1 h
  refine ⟨fun t => ?_, fun hempty t => ?_, fun hpositive t => ?_, fun hpositive t => ?_⟩
  · rw [validate_eq_ok_iff, Holds, hstart, Instant.lt_def, hend]
  · rw [validate_eq_error_iff, Refused, hstart, Instant.le_def, hend, Instant.ending]
    omega
  all_goals
    have hwindow : claims.issuedAt < claims.expiresAt := by
      rw [hstart, Instant.lt_def, hend, Instant.ending]
      omega
    rw [validate_eq_error_iff, Refused, and_iff_right hwindow]
  · rw [hstart]
  · rw [Instant.le_def, hend]

end AccessClaims

/-! ## Issued refresh clients -/

namespace RefreshClient

variable {principalId : PrincipalId} {now : Instant} {lifetime : Duration} {token : String}
  {client : RefreshClient}

theorem issue_eq_endingWith :
    issue principalId now lifetime token
      = now.endingWith lifetime fun expiresAt => ⟨principalId, token, expiresAt⟩ := rfl

/-- A client is issued when its end can be represented, and then it ends exactly there. -/
theorem issue_eq_ok_iff :
    issue principalId now lifetime token = .ok client ↔
      client.principalId = principalId ∧ client.refreshToken = token ∧
        client.expiresAt.nanoseconds = now.ending lifetime := by
  rw [issue_eq_endingWith, Instant.endingWith_eq_ok_iff]
  constructor
  · rintro ⟨expiresAt, hend, rfl⟩
    exact ⟨rfl, rfl, hend⟩
  · rintro ⟨rfl, rfl, hend⟩
    exact ⟨client.expiresAt, hend, rfl⟩

/-- What a client that is issued at an instant for a lifetime comes to at every instant. -/
structure UsableFor (client : RefreshClient) (now : Instant) (lifetime : Duration) : Prop where
  /-- The end itself still belongs to the window. -/
  expired : ∀ t, client.isExpired t = true ↔ now.ending lifetime < t.nanoseconds
  /-- A purge leaves the client in a store as long as it has not expired. -/
  purged : ∀ (clients : Clients) (t : Instant), clients.find? client.refreshToken = some client →
    ((clients.unexpired t).find? client.refreshToken = some client ↔
      t.nanoseconds ≤ now.ending lifetime)

theorem usableFor_of_issue (h : issue principalId now lifetime token = .ok client) :
    client.UsableFor now lifetime := by
  obtain ⟨-, -, hend⟩ := issue_eq_ok_iff.1 h
  refine ⟨fun t => ?_, fun clients t hstored => ?_⟩
  · rw [isExpired, decide_eq_true_eq, Instant.lt_def, hend]
  · rw [Clients.find?_unexpired_eq_some_iff, and_iff_right hstored, Instant.le_def, hend]

end RefreshClient

/-! ## Both windows -/

/--
**Windows are exact up to the ends of time.**  Claims and refresh clients are issued for a
lifetime exactly when the exact sum of the instant and the lifetime lies between the first
and the last instant, and are refused for their window otherwise.  The claims are valid
from the instant on and before the sum; without a lifetime they never are, and with one
they are early before the instant and late from the sum on.  The client expires after the
sum, so that at this instant it can still be exchanged while the claims are no longer
valid.
-/
theorem windows_exact (principalId : PrincipalId) (roleId : RoleId) (now : Instant)
    (lifetime : Duration) (token : String) :
    ((∃ claims, AccessClaims.issue principalId roleId now lifetime = .ok claims) ↔
      now.Reaches lifetime) ∧
    ((∃ client, RefreshClient.issue principalId now lifetime token = .ok client) ↔
      now.Reaches lifetime) ∧
    (∀ error, AccessClaims.issue principalId roleId now lifetime = .error error ↔
      ¬ now.Reaches lifetime ∧ error = .invalidTimeWindow) ∧
    (∀ error, RefreshClient.issue principalId now lifetime token = .error error ↔
      ¬ now.Reaches lifetime ∧ error = .invalidTimeWindow) ∧
    (∀ claims, AccessClaims.issue principalId roleId now lifetime = .ok claims →
      claims.subject = principalId ∧ claims.roleId = roleId ∧ claims.issuedAt = now ∧
        claims.expiresAt.nanoseconds = now.ending lifetime ∧ claims.ValidFor now lifetime) ∧
    (∀ client, RefreshClient.issue principalId now lifetime token = .ok client →
      client.principalId = principalId ∧ client.refreshToken = token ∧
        client.expiresAt.nanoseconds = now.ending lifetime ∧ client.UsableFor now lifetime) ∧
    ∀ claims client, AccessClaims.issue principalId roleId now lifetime = .ok claims →
      RefreshClient.issue principalId now lifetime token = .ok client →
      client.isExpired client.expiresAt = false ∧
        ∃ error, claims.validate client.expiresAt = .error error := by
  refine ⟨Instant.exists_endingWith_eq_ok_iff, Instant.exists_endingWith_eq_ok_iff,
    fun error => Instant.endingWith_eq_error_iff, fun error => Instant.endingWith_eq_error_iff,
    fun claims hclaims => ?_, fun client hclient => ?_, fun claims client hclaims hclient => ?_⟩
  · obtain ⟨hsubject, hrole, hstart, hend⟩ := AccessClaims.issue_eq_ok_iff.1 hclaims
    exact ⟨hsubject, hrole, hstart, hend, AccessClaims.validFor_of_issue hclaims⟩
  · obtain ⟨hprincipal, htoken, hend⟩ := RefreshClient.issue_eq_ok_iff.1 hclient
    exact ⟨hprincipal, htoken, hend, RefreshClient.usableFor_of_issue hclient⟩
  · obtain ⟨-, -, hend⟩ := RefreshClient.issue_eq_ok_iff.1 hclient
    constructor
    · rw [Bool.eq_false_iff, Ne, (RefreshClient.usableFor_of_issue hclient).expired, hend]
      exact Int.lt_irrefl _
    · cases hvalid : claims.validate client.expiresAt with
      | error error => exact ⟨error, rfl⟩
      | ok _ =>
        have hbefore := ((AccessClaims.validFor_of_issue hclaims).valid _).1 hvalid
        rw [hend] at hbefore
        exact absurd hbefore.2 (Int.lt_irrefl _)

/-- The law for the window that ends with the last instant, and for one that is a nanosecond
longer. -/
theorem windows_exact_latest :
    let principalId : PrincipalId := ⟨.ofNat 7⟩
    let roleId : RoleId := ⟨.ofNat 1⟩
    let now : Instant := ⟨Instant.latest.nanoseconds - 60000000000, by decide, by decide⟩
    let longer : Duration := ⟨(Duration.minutes 1).nanoseconds + 1⟩
    (∃ claims, AccessClaims.issue principalId roleId now (.minutes 1) = .ok claims ∧
      claims.expiresAt = .latest ∧ claims.validate now = .ok () ∧
      claims.validate .latest = .error .expired) ∧
    AccessClaims.issue principalId roleId now longer = .error .invalidTimeWindow := by
  intro principalId roleId now longer
  have hreaches : now.Reaches (.minutes 1) := ⟨by decide, by decide⟩
  have hbeyond : ¬ now.Reaches longer := fun h => absurd h.2 (by decide)
  obtain ⟨hissued, -, -, -, hclaims, -⟩ := windows_exact principalId roleId now (.minutes 1) ""
  obtain ⟨-, -, hrefused, -⟩ := windows_exact principalId roleId now longer ""
  obtain ⟨claims, hissue⟩ := hissued.2 hreaches
  obtain ⟨-, -, -, hend, hvalid⟩ := hclaims claims hissue
  refine ⟨⟨claims, hissue, Instant.ext hend, ?_, ?_⟩, (hrefused _).2 ⟨hbeyond, rfl⟩⟩
  · exact (hvalid.valid now).2 ⟨Int.le_refl _, by decide⟩
  · exact (hvalid.late (by decide) .latest).2 (by decide)

end AccessControl
