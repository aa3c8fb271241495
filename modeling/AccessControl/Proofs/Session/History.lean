/-
# Histories of sessions

Runs in which sessions are opened and tokens exchanged while the directory is
written to, from empty stores.  A run keeps a log of its calls and of the sessions
that they returned; what a token is good for is then a question about the log, not
about the store.
-/
import AccessControl.Proofs.Directory.Changes
import AccessControl.Proofs.Session.Calls

namespace AccessControl.Session

/-! ## Calls and their log -/

/-- A call in a run; the last text of the calls on sessions is the token generated for them. -/
inductive Event where
  | directory (operation : Directory.Operation)
  | signIn (principalId : PrincipalId) (now : Instant) (token : String)
  | refresh (token : String) (now : Instant) (fresh : String)

namespace Event

/-- The token that is generated for a call. -/
def generated : Event → Option String
  | directory _ => none
  | signIn _ _ token => some token
  | refresh _ _ fresh => some fresh

/-- The instant of an exchange, at which the expired clients are removed. -/
def purge : Event → Option Instant
  | refresh _ now _ => some now
  | _ => none

end Event

/-- A call, with the session that it returned. -/
structure Entry where
  event : Event
  opened : Option Session

/-- The stores and the calls so far, the latest first. -/
structure World where
  identities : Directory
  clients : Clients
  log : List Entry

namespace World

/-- Empty stores, before any call. -/
def start : World := ⟨.empty, .empty, []⟩

/-- The stores after a call. -/
def step (settings : Settings) (w : World) : Event → World
  | .directory operation =>
    ⟨w.identities.apply operation, w.clients, ⟨.directory operation, none⟩ :: w.log⟩
  | .signIn principalId now token =>
    match Session.signIn w.identities settings w.clients principalId now token with
    | .error _ => ⟨w.identities, w.clients, ⟨.signIn principalId now token, none⟩ :: w.log⟩
    | .ok (session, clients) =>
      ⟨w.identities, clients, ⟨.signIn principalId now token, some session⟩ :: w.log⟩
  | .refresh token now fresh =>
    match Session.refresh w.identities settings w.clients token now fresh with
    | (.error _, clients) => ⟨w.identities, clients, ⟨.refresh token now fresh, none⟩ :: w.log⟩
    | (.ok session, clients) =>
      ⟨w.identities, clients, ⟨.refresh token now fresh, some session⟩ :: w.log⟩

end World

/-! ## What a log says of a token -/

/-- A session was returned by a call of the log, before the later ones. -/
def Returned (log : List Entry) (session : Session) (later : List Entry) : Prop :=
  ∃ event earlier, log = later ++ ⟨event, some session⟩ :: earlier

/-- A token is that of a session that was returned. -/
def Issued (log : List Entry) (token : String) : Prop :=
  ∃ session later, Returned log session later ∧ session.client.refreshToken = token

/-- A token has been exchanged. -/
def Spent (log : List Entry) (token : String) : Prop :=
  ∃ now fresh session, ⟨.refresh token now fresh, some session⟩ ∈ log

/-- The instants of the exchanges of a log, of whatever token and whether they succeeded or not. -/
def purges (log : List Entry) : List Instant := log.filterMap fun entry => entry.event.purge

/-- No exchange since a token was issued, nor one at `now`, comes after the token's last instant. -/
def InTime (log : List Entry) (token : String) (now : Instant) : Prop :=
  ∀ session later, Returned log session later → session.client.refreshToken = token →
    ∀ time ∈ now :: purges later, time ≤ session.client.expiresAt

/-- The principal who signed in at the start of the chain of exchanges that led to a token. -/
inductive StartedBy (log : List Entry) : String → PrincipalId → Prop
  | signIn {principalId : PrincipalId} {now : Instant} {token : String} {session : Session} :
      ⟨.signIn principalId now token, some session⟩ ∈ log →
      StartedBy log session.client.refreshToken principalId
  | refresh {principalId : PrincipalId} {token fresh : String} {now : Instant}
      {session : Session} :
      ⟨.refresh token now fresh, some session⟩ ∈ log → StartedBy log token principalId →
      StartedBy log session.client.refreshToken principalId

/-- The worlds that runs lead to in which no generated token has been issued before. -/
inductive Reached (settings : Settings) : World → Prop
  | start : Reached settings .start
  | step {w : World} (event : Event) :
      Reached settings w → (∀ token, event.generated = some token → ¬ Issued w.log token) →
      Reached settings (w.step settings event)

/-! ## One more call -/

variable {log later : List Entry} {entry : Entry} {session : Session} {token : String}

theorem returned_cons_iff :
    Returned (entry :: log) session later ↔
      later = [] ∧ entry.opened = some session ∨
        ∃ rest, later = entry :: rest ∧ Returned log session rest := by
  constructor
  · rintro ⟨event, earlier, hlog⟩
    -- either no call came after the one that returned the session, or this last one did
    cases later with
    | nil =>
      rw [List.nil_append, List.cons.injEq] at hlog
      exact .inl ⟨rfl, by rw [hlog.1]⟩
    | cons first rest =>
      rw [List.cons_append, List.cons.injEq] at hlog
      exact .inr ⟨rest, by rw [hlog.1], event, earlier, hlog.2⟩
  · rintro (⟨rfl, hopened⟩ | ⟨rest, rfl, event, earlier, rfl⟩)
    · exact ⟨entry.event, log, by rw [← hopened, List.nil_append]⟩
    · exact ⟨event, earlier, by rw [List.cons_append]⟩

theorem returned_of_mem {event : Event} (h : ⟨event, some session⟩ ∈ log) :
    ∃ later, Returned log session later := by
  obtain ⟨later, earlier, rfl⟩ := List.append_of_mem h
  exact ⟨later, event, earlier, rfl⟩

theorem issued_cons_iff :
    Issued (entry :: log) token ↔
      (∃ session, entry.opened = some session ∧ session.client.refreshToken = token) ∨
        Issued log token := by
  constructor
  · rintro ⟨session, later, hreturned, htoken⟩
    rcases returned_cons_iff.1 hreturned with ⟨-, hopened⟩ | ⟨rest, -, hrest⟩
    · exact .inl ⟨session, hopened, htoken⟩
    · exact .inr ⟨session, rest, hrest, htoken⟩
  · rintro (⟨session, hopened, htoken⟩ | ⟨session, rest, hrest, htoken⟩)
    · exact ⟨session, [], returned_cons_iff.2 (.inl ⟨rfl, hopened⟩), htoken⟩
    · exact ⟨session, entry :: rest, returned_cons_iff.2 (.inr ⟨rest, rfl, hrest⟩), htoken⟩

/-- A log can be searched for a token. -/
theorem issued_iff_any :
    Issued log token ↔
      (log.any fun entry => entry.opened.any fun session =>
        session.client.refreshToken = token) = true := by
  induction log with
  | nil =>
    constructor
    · rintro ⟨_, later, ⟨_, _, hlog⟩, -⟩
      cases later <;> cases hlog
    · intro hany
      cases hany
  | cons entry log ih =>
    rw [issued_cons_iff, ih, List.any_cons, Bool.or_eq_true]
    cases entry.opened <;> simp

instance : Decidable (Issued log token) := decidable_of_iff _ issued_iff_any.symm

theorem spent_cons_iff :
    Spent (entry :: log) token ↔
      (∃ now fresh session, entry = ⟨.refresh token now fresh, some session⟩) ∨
        Spent log token := by
  constructor
  · rintro ⟨now, fresh, session, hmem⟩
    rcases List.mem_cons.1 hmem with heq | hold
    · exact .inl ⟨now, fresh, session, heq.symm⟩
    · exact .inr ⟨now, fresh, session, hold⟩
  · rintro (⟨now, fresh, session, rfl⟩ | ⟨now, fresh, session, hold⟩)
    · exact ⟨now, fresh, session, List.mem_cons_self⟩
    · exact ⟨now, fresh, session, List.mem_cons_of_mem _ hold⟩

/-- A call that returns no session exchanges no token. -/
theorem spent_refused_iff {event : Event} :
    Spent (⟨event, none⟩ :: log) token ↔ Spent log token := by
  rw [spent_cons_iff]
  constructor
  · rintro (⟨_, _, _, heq⟩ | hold)
    · cases heq
    · exact hold
  · exact .inr

theorem spent_signIn_iff {principalId : PrincipalId} {now : Instant} {fresh : String} :
    Spent (⟨.signIn principalId now fresh, some session⟩ :: log) token ↔ Spent log token := by
  rw [spent_cons_iff]
  constructor
  · rintro (⟨_, _, _, heq⟩ | hold)
    · cases heq
    · exact hold
  · exact .inr

theorem spent_refresh_iff {old fresh : String} {now : Instant} :
    Spent (⟨.refresh old now fresh, some session⟩ :: log) token ↔
      token = old ∨ Spent log token := by
  rw [spent_cons_iff]
  constructor
  · rintro (⟨_, _, _, heq⟩ | hold)
    · cases heq
      exact .inl rfl
    · exact .inr hold
  · rintro (rfl | hold)
    · exact .inl ⟨now, fresh, session, rfl⟩
    · exact .inr hold

theorem mem_purges_cons_iff {time : Instant} :
    time ∈ purges (entry :: log) ↔ entry.event.purge = some time ∨ time ∈ purges log := by
  unfold purges
  rw [List.filterMap_cons]
  cases entry.event.purge <;> simp [eq_comm]

theorem StartedBy.cons {principalId : PrincipalId} (h : StartedBy log token principalId)
    (entry : Entry) : StartedBy (entry :: log) token principalId := by
  induction h with
  | signIn hmem => exact .signIn (List.mem_cons_of_mem _ hmem)
  | refresh hmem _ ih => exact .refresh (List.mem_cons_of_mem _ hmem) ih

end AccessControl.Session
