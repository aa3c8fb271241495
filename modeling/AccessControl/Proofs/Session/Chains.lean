/-
# Chains of sessions

What the logs of runs have in common (`Traced`): a token is that of one session,
and a session continues one that was returned before, unless it was opened by
signing in.  A token of such a log is still good (`Live`) until it is exchanged or
an exchange of any token comes after its last instant.
-/
import AccessControl.Proofs.Session.History

namespace AccessControl.Session

variable {settings : Settings} {log later later' : List Entry} {entry : Entry} {event : Event}
  {session session' : Session} {client : RefreshClient} {token fresh : String} {now : Instant}
  {principalId : PrincipalId}

/-! ## Traced logs -/

/-- What a call that returns a session has to do with the calls before it. -/
def Follows (log : List Entry) : Event → Session → Prop
  | .directory _, _ => False
  | .signIn principalId _ _, session => session.client.principalId = principalId
  | .refresh token _ _, session =>
    ∃ previous later, Returned log previous later ∧ previous.client.refreshToken = token ∧
      previous.client.principalId = session.client.principalId

/-- The logs in which a session has a new token and the principal of the one that it follows. -/
inductive Traced : List Entry → Prop
  | nil : Traced []
  | refused {log : List Entry} (event : Event) : Traced log → Traced (⟨event, none⟩ :: log)
  | returned {log : List Entry} {event : Event} {session : Session} :
      Traced log → ¬ Issued log session.client.refreshToken → Follows log event session →
      Traced (⟨event, some session⟩ :: log)

theorem not_returned_nil : ¬ Returned [] session later := by
  rintro ⟨event, earlier, hlog⟩
  cases later <;> cases hlog

theorem Follows.cons (h : Follows log event session) (entry : Entry) :
    Follows (entry :: log) event session := by
  cases event with
  | directory _ => exact h
  | signIn _ _ _ => exact h
  | refresh _ _ _ =>
    obtain ⟨previous, later, hreturned, htoken, hprincipal⟩ := h
    exact ⟨previous, entry :: later, returned_cons_iff.2 (.inr ⟨later, rfl, hreturned⟩), htoken,
      hprincipal⟩

/-- A call that returned a session followed the log at its time, and so the log now. -/
theorem Traced.follows (h : Traced log) (hmem : ⟨event, some session⟩ ∈ log) :
    Follows log event session := by
  induction h with
  | nil => cases hmem
  | refused _ _ ih =>
    rcases List.mem_cons.1 hmem with heq | hold
    · cases heq
    · exact (ih hold).cons _
  | returned _ _ hfollows ih =>
    rcases List.mem_cons.1 hmem with heq | hold
    · cases heq
      exact hfollows.cons _
    · exact (ih hold).cons _

/-- A token is that of one session only, which was returned once. -/
theorem Traced.unique (h : Traced log) (hreturned : Returned log session later)
    (hreturned' : Returned log session' later')
    (htoken : session.client.refreshToken = session'.client.refreshToken) :
    session = session' ∧ later = later' := by
  induction h generalizing later later' with
  | nil => exact absurd hreturned not_returned_nil
  | refused _ _ ih =>
    rcases returned_cons_iff.1 hreturned with ⟨-, hopened⟩ | ⟨rest, rfl, hrest⟩
    · cases hopened
    · rcases returned_cons_iff.1 hreturned' with ⟨-, hopened'⟩ | ⟨rest', rfl, hrest'⟩
      · cases hopened'
      · obtain ⟨hsession, rfl⟩ := ih hrest hrest'
        exact ⟨hsession, rfl⟩
  | returned _ hnew _ ih =>
    -- the last session has a token that none before it has
    rcases returned_cons_iff.1 hreturned with ⟨rfl, hopened⟩ | ⟨rest, rfl, hrest⟩
    · cases hopened
      rcases returned_cons_iff.1 hreturned' with ⟨rfl, hopened'⟩ | ⟨rest', -, hrest'⟩
      · cases hopened'
        exact ⟨rfl, rfl⟩
      · exact absurd ⟨_, rest', hrest', htoken.symm⟩ hnew
    · rcases returned_cons_iff.1 hreturned' with ⟨-, hopened'⟩ | ⟨rest', rfl, hrest'⟩
      · cases hopened'
        exact absurd ⟨_, rest, hrest, htoken⟩ hnew
      · obtain ⟨hsession, rfl⟩ := ih hrest hrest'
        exact ⟨hsession, rfl⟩

/-- Only tokens that were issued are exchanged. -/
theorem Traced.issued_of_spent (h : Traced log) (hspent : Spent log token) : Issued log token := by
  obtain ⟨now, fresh, session, hmem⟩ := hspent
  obtain ⟨previous, later, hreturned, htoken, -⟩ := h.follows hmem
  exact ⟨previous, later, hreturned, htoken⟩

/-- The chain of a token starts with the principal of its client. -/
theorem Traced.startedBy (h : Traced log) (hreturned : Returned log session later) :
    StartedBy log session.client.refreshToken session.client.principalId := by
  induction h generalizing session later with
  | nil => exact absurd hreturned not_returned_nil
  | refused _ _ ih =>
    rcases returned_cons_iff.1 hreturned with ⟨-, hopened⟩ | ⟨rest, -, hrest⟩
    · cases hopened
    · exact (ih hrest).cons _
  | @returned log event _ _ _ hfollows ih =>
    rcases returned_cons_iff.1 hreturned with ⟨-, hopened⟩ | ⟨rest, -, hrest⟩
    · cases hopened
      cases event with
      | directory _ => exact hfollows.elim
      | signIn _ _ _ =>
        cases hfollows
        exact .signIn List.mem_cons_self
      | refresh _ _ _ =>
        -- the session before was returned earlier, so that its chain is known
        obtain ⟨previous, _, hprevious, htoken, hprincipal⟩ := hfollows
        rw [← hprincipal]
        refine .refresh List.mem_cons_self ?_
        rw [← htoken]
        exact (ih hprevious).cons _
    · exact (ih hrest).cons _

/-- The chain of a token starts with one principal only. -/
theorem Traced.principalId_of_startedBy (h : Traced log) (hstart : StartedBy log token principalId)
    (hreturned : Returned log session later) (htoken : session.client.refreshToken = token) :
    session.client.principalId = principalId := by
  -- along the chain: a token has one session, and that has the principal of the one before
  induction hstart generalizing session later with
  | signIn hmem =>
    obtain ⟨_, hopened⟩ := returned_of_mem hmem
    obtain ⟨rfl, -⟩ := h.unique hreturned hopened htoken
    exact h.follows hmem
  | refresh hmem _ ih =>
    obtain ⟨_, hopened⟩ := returned_of_mem hmem
    obtain ⟨rfl, -⟩ := h.unique hreturned hopened htoken
    obtain ⟨previous, _, hprevious, hpreviousToken, hprincipal⟩ := h.follows hmem
    rw [← hprincipal]
    exact ih hprevious hpreviousToken

/-! ## The tokens that are still good -/

/-- A client whose token is still good, by the log. -/
def Live (log : List Entry) (token : String) (client : RefreshClient) : Prop :=
  ∃ session later, Returned log session later ∧ session.client = client ∧
    client.refreshToken = token ∧ ¬ Spent log token ∧
    ∀ time ∈ purges later, time ≤ client.expiresAt

theorem Live.issued (h : Live log token client) : Issued log token := by
  obtain ⟨session, later, hreturned, rfl, htoken, -, -⟩ := h
  exact ⟨session, later, hreturned, htoken⟩

theorem Live.not_spent (h : Live log token client) : ¬ Spent log token := by
  obtain ⟨_, _, _, _, _, hunspent, _⟩ := h
  exact hunspent

/-- One more call can issue a token, exchange one, and end those whose last instant has passed. -/
theorem live_cons_iff :
    Live (entry :: log) token client ↔ ¬ Spent (entry :: log) token ∧
      ((∃ session, entry.opened = some session ∧ session.client = client ∧
          client.refreshToken = token) ∨
        Live log token client ∧
          ∀ time, entry.event.purge = some time → time ≤ client.expiresAt) := by
  constructor
  · rintro ⟨session, later, hreturned, rfl, htoken, hunspent, htimes⟩
    refine ⟨hunspent, ?_⟩
    rcases returned_cons_iff.1 hreturned with ⟨-, hopened⟩ | ⟨rest, rfl, hrest⟩
    · exact .inl ⟨session, hopened, rfl, htoken⟩
    · have hunspent' : ¬ Spent log token := fun hspent => hunspent (spent_cons_iff.2 (.inr hspent))
      refine .inr ⟨⟨session, rest, hrest, rfl, htoken, hunspent', ?_⟩, ?_⟩
      · intro time htime
        exact htimes time (mem_purges_cons_iff.2 (.inr htime))
      · intro time htime
        exact htimes time (mem_purges_cons_iff.2 (.inl htime))
  · rintro ⟨hunspent, ⟨session, hopened, rfl, htoken⟩ | ⟨hlive, hnow⟩⟩
    · refine ⟨session, [], returned_cons_iff.2 (.inl ⟨rfl, hopened⟩), rfl, htoken, hunspent, ?_⟩
      intro time htime
      cases htime
    · obtain ⟨session, later, hreturned, rfl, htoken, -, htimes⟩ := hlive
      refine ⟨session, entry :: later, returned_cons_iff.2 (.inr ⟨later, rfl, hreturned⟩), rfl,
        htoken, hunspent, ?_⟩
      intro time htime
      rcases mem_purges_cons_iff.1 htime with hpurge | hold
      · exact hnow time hpurge
      · exact htimes time hold

/-- A call that returns no session only ends tokens whose last instant has passed. -/
theorem live_refused_iff :
    Live (⟨event, none⟩ :: log) token client ↔
      Live log token client ∧ ∀ time, event.purge = some time → time ≤ client.expiresAt := by
  rw [live_cons_iff, spent_refused_iff]
  constructor
  · rintro ⟨-, ⟨_, hopened, -⟩ | hold⟩
    · cases hopened
    · exact hold
  · intro hold
    exact ⟨hold.1.not_spent, .inr hold⟩

/-- A sign-in with a new token makes this token good and leaves the others. -/
theorem live_signIn_iff (h : Traced log) (hnew : ¬ Issued log session.client.refreshToken) :
    Live (⟨.signIn principalId now fresh, some session⟩ :: log) token client ↔
      token = session.client.refreshToken ∧ client = session.client ∨ Live log token client := by
  rw [live_cons_iff, spent_signIn_iff]
  constructor
  · rintro ⟨-, ⟨_, hopened, rfl, rfl⟩ | ⟨hlive, -⟩⟩
    · cases hopened
      exact .inl ⟨rfl, rfl⟩
    · exact .inr hlive
  · rintro (⟨rfl, rfl⟩ | hlive)
    · exact ⟨fun hspent => hnew (h.issued_of_spent hspent), .inl ⟨session, rfl, rfl, rfl⟩⟩
    · refine ⟨hlive.not_spent, .inr ⟨hlive, ?_⟩⟩
      intro time htime
      cases htime

/-- An exchange for a new token makes this token good instead of the old one. -/
theorem live_refresh_iff {old : String} (h : Traced log)
    (hnew : ¬ Issued log session.client.refreshToken) (hold : Issued log old) :
    Live (⟨.refresh old now fresh, some session⟩ :: log) token client ↔
      token = session.client.refreshToken ∧ client = session.client ∨
        token ≠ old ∧ Live log token client ∧ now ≤ client.expiresAt := by
  rw [live_cons_iff, spent_refresh_iff]
  constructor
  · rintro ⟨hunspent, ⟨_, hopened, rfl, rfl⟩ | ⟨hlive, hnow⟩⟩
    · cases hopened
      exact .inl ⟨rfl, rfl⟩
    · exact .inr ⟨fun heq => hunspent (.inl heq), hlive, hnow now rfl⟩
  · rintro (⟨rfl, rfl⟩ | ⟨hne, hlive, hnow⟩)
    · refine ⟨?_, .inl ⟨session, rfl, rfl, rfl⟩⟩
      -- the new token is not the old one, which was issued
      rintro (rfl | hspent)
      · exact hnew hold
      · exact hnew (h.issued_of_spent hspent)
    · refine ⟨?_, .inr ⟨hlive, ?_⟩⟩
      · rintro (heq | hspent)
        · exact hne heq
        · exact hlive.not_spent hspent
      · rintro time ⟨⟩
        exact hnow

end AccessControl.Session
