/-
# Purges

A purge removes the clients whose last instant has passed and says how many there were.
Two purges come to one at the later instant, in whatever order they are made, and their
counts add up; the clock may go back between them.  A purge can change places with a call
that stores or swaps a client, as long as neither the client itself nor one that the call
meets under a token has expired: such a client would be gone for the call after the purge.
-/
import AccessControl.Clients
import AccessControl.Proofs.Session.Outcomes
import Mathlib.Data.List.Nodup
import Mathlib.Data.Set.Card

namespace AccessControl

/-- Of two instants, the later one. -/
instance : Max Instant := maxOfLe

namespace Instant

/-- What lies before the later of two instants lies before one of them. -/
theorem lt_max_iff {s t u : Instant} : u < max s t ↔ u < s ∨ u < t := by
  rw [show max s t = if s ≤ t then t else s from rfl]
  split
  · rename_i h
    rw [le_def] at h
    rw [lt_def, lt_def]
    omega
  · rename_i h
    rw [le_def] at h
    rw [lt_def, lt_def]
    omega

theorem max_comm (s t : Instant) : max s t = max t s := by
  have hmax : ∀ s t : Instant, max s t = if s ≤ t then t else s := fun _ _ => rfl
  apply ext
  rw [hmax, hmax]
  split <;> split <;> rw [le_def] at * <;> omega

end Instant

/-! ## Calls of a store of clients -/

namespace ClientStore

/-- A call of a store of clients that can change it, with what it is given. -/
inductive Call where
  | insertClient (client : RefreshClient)
  | rotateClient (token : String) (replacement : RefreshClient)
  | removeExpired (now : Instant)

/-- What a call that succeeds answers. -/
inductive Answer where
  | done
  /-- The client that was replaced, if there was one. -/
  | retired (client : Option RefreshClient)
  | removed (count : Nat)
  deriving DecidableEq

variable {σ : Type} [ClientStore σ]

/-- What a store answers to a call, and the store afterwards: as it was, when the call fails. -/
def perform (store : σ) : Call → Except AuthorizationError Answer × σ
  | .insertClient client =>
    match ClientStore.insertClient store client with
    | .error error => (.error error, store)
    | .ok store => (.ok .done, store)
  | .rotateClient token replacement =>
    match ClientStore.rotateClient store token replacement with
    | .error error => (.error error, store)
    | .ok none => (.ok (.retired none), store)
    | .ok (some (client, store)) => (.ok (.retired client), store)
  | .removeExpired now =>
    match ClientStore.removeExpired store now with
    | .error error => (.error error, store)
    | .ok (count, store) => (.ok (.removed count), store)

/-- What a store answers to two calls one after the other, and the store after both. -/
def performBoth (store : σ) (first second : Call) :
    Except AuthorizationError Answer × Except AuthorizationError Answer × σ :=
  let outcome := perform store first
  (outcome.1, perform outcome.2 second)

end ClientStore

namespace Table

variable {κ α : Type} {s t : Table κ α}

/-- A table is its entries. -/
theorem ext_entries (h : s.entries = t.entries) : s = t := by
  cases s
  cases t
  cases h
  rfl

theorem nodup_entries (t : Table κ α) : t.entries.Nodup := t.nodup.of_map _

variable [DecidableEq κ]

theorem filter_erase (t : Table κ α) (keep : κ → α → Bool) (key : κ) :
    (t.erase key).filter keep = (t.filter keep).erase key := ext_entries (List.filter_comm _ _ _)

/-- An entry that is kept can be stored before the others are filtered or after it. -/
theorem filter_insert (t : Table κ α) (keep : κ → α → Bool) {key : κ} {value : α}
    (hkeep : keep key value = true) :
    (t.insert key value).filter keep = (t.filter keep).insert key value := by
  apply ext_entries
  show ((key, value) :: (t.erase key).entries).filter (fun entry => keep entry.1 entry.2) = _
  rw [List.filter_cons, if_pos hkeep]
  exact congrArg (fun rest : Table κ α => (key, value) :: rest.entries) (filter_erase t keep key)

end Table

namespace Clients

open ClientStore (perform performBoth)

variable {clients : Clients} {client : RefreshClient} {token : String} {s t : Instant}

/-! ## What has expired -/

/-- The entries of the clients that have expired. -/
def expired (clients : Clients) (now : Instant) : List (String × RefreshClient) :=
  clients.byToken.entries.filter fun entry => entry.2.isExpired now

/-- The tokens that are stored, each with its client. -/
def stored (clients : Clients) : Set (String × RefreshClient) :=
  {entry | clients.find? entry.1 = some entry.2}

theorem size_eq (clients : Clients) (now : Instant) :
    clients.size = (clients.expired now).length + (clients.unexpired now).size := by
  show clients.byToken.entries.length = _ + (clients.byToken.entries.filter _).length
  rw [List.length_eq_length_filter_add fun entry => entry.2.isExpired now]
  rfl

/-- The count of a purge is that of the clients that have expired. -/
theorem fst_removeExpired (clients : Clients) (now : Instant) :
    (clients.removeExpired now).1 = (clients.expired now).length := by
  have hsize := clients.size_eq now
  show clients.size - (clients.unexpired now).size = _
  omega

/-- The entries that disappear in a purge are those of the clients that have expired. -/
theorem stored_diff_unexpired (clients : Clients) (now : Instant) :
    clients.stored \ (clients.unexpired now).stored = {entry | entry ∈ clients.expired now} := by
  ext ⟨token, client⟩
  have hexpired : (token, client) ∈ clients.expired now ↔
      clients.find? token = some client ∧ client.expiresAt < now := by
    rw [expired, List.mem_filter, Table.mem_entries_iff, RefreshClient.isExpired, decide_eq_true_eq]
    rfl
  rw [Set.mem_ofPred_eq, hexpired]
  show _ ∧ ¬ (clients.unexpired now).find? token = some client ↔ _
  rw [find?_unexpired_eq_some_iff, ← Instant.not_lt]
  show clients.find? token = some client ∧ _ ↔ _
  tauto

theorem ncard_stored_diff_unexpired (clients : Clients) (now : Instant) :
    (clients.stored \ (clients.unexpired now).stored).ncard = (clients.removeExpired now).1 := by
  have hnodup : (clients.expired now).Nodup := clients.byToken.nodup_entries.filter _
  rw [stored_diff_unexpired, fst_removeExpired, ← List.coe_toFinset, Set.ncard_coe_finset,
    List.toFinset_card_of_nodup hnodup]

/-! ## Two purges -/

/-- A purge answers with a count, which is that of the entries that disappear. -/
structure Purged (before : Clients) (now : Instant) (count : Nat) (after : Clients) : Prop where
  answer : perform before (.removeExpired now) = (.ok (.removed count), after)
  disappeared : (before.stored \ after.stored).ncard = count

theorem purged (clients : Clients) (now : Instant) :
    clients.Purged now (clients.removeExpired now).1 (clients.unexpired now) where
  answer := rfl
  disappeared := clients.ncard_stored_diff_unexpired now

/-- What two purges leave is what one leaves at the later instant. -/
theorem unexpired_unexpired (clients : Clients) (s t : Instant) :
    (clients.unexpired s).unexpired t = clients.unexpired (max s t) := by
  refine congrArg Clients.mk (Table.ext_entries ?_)
  show (clients.byToken.entries.filter _).filter _ = clients.byToken.entries.filter _
  rw [List.filter_filter]
  refine List.filter_congr fun entry _ => ?_
  rw [Bool.eq_iff_iff]
  simp only [RefreshClient.isExpired, Bool.and_eq_true, Bool.not_eq_true', decide_eq_false_iff_not,
    Instant.lt_max_iff]
  tauto

theorem size_unexpired_le (clients : Clients) (now : Instant) :
    (clients.unexpired now).size ≤ clients.size := List.length_filter_le _ _

/-- The counts of two purges add up to that of one at the later instant. -/
theorem removed_add_removed (clients : Clients) (s t : Instant) :
    (clients.removeExpired s).1 + ((clients.unexpired s).removeExpired t).1
      = (clients.removeExpired (max s t)).1 := by
  have hfirst := clients.size_unexpired_le s
  have hsecond := (clients.unexpired s).size_unexpired_le t
  show (_ - _) + (_ - _) = _ - _
  rw [unexpired_unexpired] at hsecond ⊢
  omega

/-! ## Purges and other calls -/

/-- No client that is stored under a token has expired. -/
def Spares (clients : Clients) (now : Instant) (token : String) : Prop :=
  ∀ client, clients.find? token = some client → client.isExpired now = false

/-- Dropping a token takes none of the expired clients away. -/
theorem expired_erase (h : clients.Spares t token) :
    expired ⟨clients.byToken.erase token⟩ t = clients.expired t := by
  show (clients.byToken.entries.filter _).filter _ = clients.byToken.entries.filter _
  rw [List.filter_filter]
  refine List.filter_congr fun entry hmem => ?_
  rw [Bool.and_eq_left_iff_imp]
  intro hexpired
  rw [decide_eq_true_eq]
  rintro rfl
  rw [h entry.2 (Table.mem_entries_iff.1 hmem)] at hexpired
  cases hexpired

/-- Storing a client that has not expired makes none expired and takes none away. -/
theorem expired_insert (hclient : client.isExpired t = false)
    (h : clients.Spares t client.refreshToken) :
    expired ⟨clients.byToken.insert client.refreshToken client⟩ t = clients.expired t := by
  rw [← expired_erase h]
  exact List.filter_cons_of_neg (Bool.eq_false_iff.1 hclient)

theorem unexpired_erase (clients : Clients) (t : Instant) (token : String) :
    unexpired ⟨clients.byToken.erase token⟩ t = ⟨(clients.unexpired t).byToken.erase token⟩ :=
  congrArg Clients.mk (Table.filter_erase _ _ _)

/-- A client that has not expired can be stored before a purge or after it. -/
theorem unexpired_insert (hclient : client.isExpired t = false) (clients : Clients) :
    unexpired ⟨clients.byToken.insert client.refreshToken client⟩ t
      = ⟨(clients.unexpired t).byToken.insert client.refreshToken client⟩ :=
  congrArg Clients.mk (Table.filter_insert _ _ (congrArg not hclient))

/-- What is found under a token whose client has not expired is found after a purge. -/
theorem find?_unexpired_of_spares (h : clients.Spares t token) :
    (clients.unexpired t).find? token = clients.find? token := by
  apply Option.ext
  intro client
  rw [find?_unexpired_eq_some_iff]
  refine and_iff_left_of_imp fun hfind => ?_
  rw [← Instant.not_lt, ← decide_eq_false_iff_not]
  exact h client hfind

theorem contains_unexpired_of_spares (h : clients.Spares t token) :
    (clients.unexpired t).byToken.contains token = clients.byToken.contains token :=
  congrArg Option.isSome (find?_unexpired_of_spares h)

/-- A call and a purge answer the same in either order, and leave the same clients. -/
def Interchange (clients : Clients) (call : ClientStore.Call) (now : Instant) : Prop :=
  ∃ answer count after,
    performBoth clients call (.removeExpired now) = (answer, .ok (.removed count), after) ∧
      performBoth clients (.removeExpired now) call = (.ok (.removed count), answer, after)

/-- A call that fails, or changes nothing, can change places with every purge. -/
theorem interchange_of_kept {call : ClientStore.Call}
    (answer : Except AuthorizationError ClientStore.Answer)
    (hbefore : perform clients call = (answer, clients))
    (hafter : perform (clients.unexpired t) call = (answer, clients.unexpired t)) :
    clients.Interchange call t := by
  refine ⟨answer, (clients.removeExpired t).1, clients.unexpired t, ?_, ?_⟩
  · rw [performBoth, hbefore]
    rfl
  · show (_, perform (clients.unexpired t) call) = _
    rw [hafter]
    rfl

/-- A call that changes the clients can change places with a purge that removes as many after it. -/
theorem interchange_of_changed {call : ClientStore.Call} {clients' : Clients}
    (answer : Except AuthorizationError ClientStore.Answer)
    (hbefore : perform clients call = (answer, clients'))
    (hafter : perform (clients.unexpired t) call = (answer, clients'.unexpired t))
    (hexpired : clients'.expired t = clients.expired t) : clients.Interchange call t := by
  refine ⟨answer, (clients.removeExpired t).1, clients'.unexpired t, ?_, ?_⟩
  · rw [performBoth, hbefore, fst_removeExpired, ← hexpired, ← fst_removeExpired]
    rfl
  · show (_, perform (clients.unexpired t) call) = _
    rw [hafter]
    rfl

theorem interchange_insertClient (hclient : client.isExpired t = false)
    (h : clients.Spares t client.refreshToken) :
    clients.Interchange (.insertClient client) t := by
  have hcontains := contains_unexpired_of_spares h
  cases htaken : clients.byToken.contains client.refreshToken with
  | true =>
    rw [htaken] at hcontains
    refine interchange_of_kept (.error (.conflict .tokenIssued)) ?_ ?_
    · simp only [perform, ClientStore.insertClient, insert, htaken, if_true]
    · simp only [perform, ClientStore.insertClient, insert, hcontains, if_true]
  | false =>
    rw [htaken] at hcontains
    refine interchange_of_changed (.ok .done) ?_ ?_ (expired_insert hclient h)
    · simp [perform, ClientStore.insertClient, insert, htaken]
    · simp [perform, ClientStore.insertClient, insert, hcontains, unexpired_insert hclient]

/-- The client that takes the place of another one is stored after the other one is dropped. -/
theorem interchange_rotateClient (hclient : client.isExpired t = false)
    (h : clients.Spares t client.refreshToken) (hold : clients.Spares t token) :
    clients.Interchange (.rotateClient token client) t := by
  have hcontains := contains_unexpired_of_spares h
  cases htaken : clients.byToken.contains client.refreshToken with
  | true =>
    rw [htaken] at hcontains
    refine interchange_of_kept (.error (.conflict .tokenIssued)) ?_ ?_
    · simp only [perform, ClientStore.rotateClient, rotate, htaken, if_true]
    · simp only [perform, ClientStore.rotateClient, rotate, hcontains, if_true]
  | false =>
    rw [htaken] at hcontains
    have hfind : (clients.unexpired t).byToken.find? token = clients.byToken.find? token :=
      find?_unexpired_of_spares hold
    cases hretired : clients.byToken.find? token with
    | none =>
      rw [hretired] at hfind
      refine interchange_of_kept (.ok (.retired none)) ?_ ?_
      · simp [perform, ClientStore.rotateClient, rotate, htaken, hretired]
      · simp [perform, ClientStore.rotateClient, rotate, hcontains, hfind]
    | some retired =>
      rw [hretired] at hfind
      have hleft : Spares ⟨clients.byToken.erase token⟩ t client.refreshToken :=
        fun found hfound => h found (Table.find?_erase_eq_some_iff.1 hfound).2
      have hexpired := (expired_insert hclient hleft).trans (expired_erase hold)
      have hunexpired := unexpired_insert (t := t) hclient ⟨clients.byToken.erase token⟩
      rw [unexpired_erase] at hunexpired
      refine interchange_of_changed (.ok (.retired retired)) ?_ ?_ hexpired
      · simp [perform, ClientStore.rotateClient, rotate, htaken, hretired]
      · simp [perform, ClientStore.rotateClient, rotate, hcontains, hfind, hunexpired]

/--
**Purges compose.**  Whatever is stored, two purges leave the clients that one leaves at the
later of the two instants, in either order, and their counts, each that of the entries that
disappear, add up to the count of the one.  A purge can change places with storing a client
and with putting it in the place of another one, with the same answers and the same clients
in the end, when the client has not expired and no client has that is stored under its token
or under the token that it takes the place of.
-/
theorem purges_compose (clients : Clients) (s t : Instant) :
    (∃ count after, clients.Purged (max s t) count after ∧
      (∃ m n between, clients.Purged s m between ∧ between.Purged t n after ∧ m + n = count) ∧
      ∃ m n between, clients.Purged t m between ∧ between.Purged s n after ∧ m + n = count) ∧
    ∀ client, client.isExpired t = false → clients.Spares t client.refreshToken →
      clients.Interchange (.insertClient client) t ∧
      ∀ token, clients.Spares t token → clients.Interchange (.rotateClient token client) t := by
  have hpurges : ∀ s t, ∃ m n between, clients.Purged s m between ∧
      between.Purged t n (clients.unexpired (max s t)) ∧
      m + n = (clients.removeExpired (max s t)).1 := by
    intro s t
    have hsecond := (clients.unexpired s).purged t
    rw [unexpired_unexpired] at hsecond
    exact ⟨_, _, _, clients.purged s, hsecond, clients.removed_add_removed s t⟩
  refine ⟨⟨_, _, clients.purged (max s t), hpurges s t, ?_⟩, ?_⟩
  · rw [Instant.max_comm]
    exact hpurges t s
  · exact fun client hclient h => ⟨interchange_insertClient hclient h,
      fun token hold => interchange_rotateClient hclient h hold⟩

/-- The law for the two clients, of which a purge in 1970 removes the stale one: the live one
can be replaced before it or after it. -/
theorem purges_compose_twoClients :
    let client : RefreshClient := ⟨Directory.vasya.id, "fresh", .latest⟩
    client.isExpired .epoch = false ∧ Session.twoClients.Spares .epoch "fresh" ∧
      Session.twoClients.Spares .epoch "live" ∧ (Session.twoClients.removeExpired .epoch).1 = 1 ∧
      Session.twoClients.Interchange (.rotateClient "live" client) .epoch := by
  intro client
  have hfresh : Session.twoClients.Spares .epoch "fresh" := by
    rintro found ⟨⟩
  have hlive : Session.twoClients.Spares .epoch "live" := by
    rintro found ⟨⟩
    rfl
  obtain ⟨-, hinterchange⟩ := purges_compose Session.twoClients .earliest .epoch
  exact ⟨rfl, hfresh, hlive, rfl, (hinterchange client rfl hfresh).2 "live" hlive⟩

end Clients

end AccessControl
