import OpenStackExecutor.Cloud.Model
import OpenStackExecutor.Footprint

/-!
# What the provider keeps of a server

Between the states of a run that submits no server, the provider keeps each server's
identifier, name and metadata: a server only changes status or disappears, together with every
server of its identifier. A lookup in a later state therefore finds nothing an earlier lookup
would not have found.
-/

namespace OpenStackExecutor

namespace Cloud

/-- What a server keeps while it exists: identifier, name and metadata. -/
def identity (server : Server) : String × String × List (String × String) :=
  (server.id, server.name, server.metadata)

/-- The servers of `s` with identifier `id`, as far as they are kept. -/
def kept (s : Cloud) (id : String) : List (String × String × List (String × String)) :=
  (s.servers.filter (·.id == id)).map identity

/-- `s'` descends from `s`: for each identifier, `s'` has the servers `s` has, up to status, or
none. -/
def Descends (s s' : Cloud) : Prop := ∀ id, s'.kept id = [] ∨ s'.kept id = s.kept id

theorem Descends.refl (s : Cloud) : Descends s s := fun _ => .inr rfl

theorem Descends.trans {s₁ s₂ s₃ : Cloud} (h₁ : Descends s₁ s₂) (h₂ : Descends s₂ s₃) :
    Descends s₁ s₃ := by
  intro id
  rcases h₂ id with h | h
  · exact .inl h
  · rw [h]; exact h₁ id

theorem Descends.of_servers_eq {s s' : Cloud} (h : s'.servers = s.servers) : Descends s s' :=
  fun id => .inr (by simp [kept, h])

theorem drift_descends (s : Cloud) (d : Drift) : Descends s (s.drift d) := by
  intro id
  cases d with
  | setStatus sid status =>
    right
    simp only [kept, drift, List.filter_map, List.map_map]
    congr 1
    · funext server; simp only [Function.comp_apply]; split <;> rfl
    · congr 1; funext server; simp only [Function.comp_apply]; split <;> rfl
  | purge pid =>
    by_cases h : pid = id
    · left
      subst h
      simp [kept, drift]
    · right
      simp only [kept, drift, List.filter_filter]
      congr 2
      funext server
      by_cases hs : server.id = id <;> simp [hs, Ne.symm h]

theorem foldl_drift_descends (s : Cloud) (ds : List Drift) : Descends s (ds.foldl drift s) := by
  induction ds generalizing s with
  | nil => exact Descends.refl s
  | cons d ds ih => exact (drift_descends s d).trans (ih _)

/-- Only a submission changes the provider's servers. -/
theorem answer_servers {s : Cloud} {fresh : Nat} {c : Call} (hc : ¬Boots c) :
    (s.answer fresh c).2.servers = s.servers := by
  cases c with
  | createServer opts => exact absurd ⟨opts, .inl rfl⟩ hc
  | bootFromVolume opts => exact absurd ⟨opts, .inr rfl⟩ hc
  | updatePort id opts => simp only [answer]; split <;> rfl
  | deletePort id => simp only [answer]; split <;> rfl
  | _ => rfl

/-- The provider's records when it answers call number `st.2`: after that call's drift. -/
def atCall (sched : Nat → Turn) (st : Cloud × Nat) : Cloud := (sched st.2).drift.foldl drift st.1

theorem respond_servers {sched : Nat → Turn} {st : Cloud × Nat} {c : Call} (hc : ¬Boots c) :
    (respond sched st c).2.1.servers = (atCall sched st).servers := by
  unfold respond
  split
  · rfl
  · exact answer_servers hc

theorem respond_descends {sched : Nat → Turn} {st : Cloud × Nat} {c : Call} (hc : ¬Boots c) :
    Descends st.1 (respond sched st c).2.1 :=
  (foldl_drift_descends _ _).trans (Descends.of_servers_eq (respond_servers hc))

/-- A run that submits no server ends in a state that descends from its first. -/
theorem run_descends {α : Type} {p : Prog α} (hp : p.Uses fun c => ¬Boots c)
    (sched : Nat → Turn) (st : Cloud × Nat) :
    Descends st.1 (Prog.run (respond sched) st p).state.1 := by
  induction p generalizing st with
  | pure a => exact Descends.refl _
  | call c k ih => exact (respond_descends hp.1).trans (ih _ (hp.2 _) _)

/-- A run that makes a call and submits no server ends in a state that descends from the
records its first call was answered from. -/
theorem run_descends_atCall {α : Type} {p : Prog α} (hp : p.Uses fun c => ¬Boots c)
    {sched : Nat → Turn} {st : Cloud × Nat} (hcall : (Prog.run (respond sched) st p).trace ≠ []) :
    Descends (atCall sched st) (Prog.run (respond sched) st p).state.1 := by
  cases p with
  | pure a => exact absurd rfl hcall
  | call c k =>
    exact (Descends.of_servers_eq (respond_servers hp.1)).trans (run_descends (hp.2 _) sched _)

/-- Every call of a run that submits no server is answered from records that descend from the
run's first. -/
theorem run_answered_descends {α : Type} {p : Prog α} (hp : p.Uses fun c => ¬Boots c)
    (sched : Nat → Turn) (st : Cloud × Nat) :
    ∀ e ∈ (Prog.run (respond sched) st p).trace,
      ∃ st', Descends st.1 (atCall sched st') ∧ (respond sched st' e.1).1 = e.2 := by
  induction p generalizing st with
  | pure a => simp
  | call c k ih =>
    intro e he
    rcases List.mem_cons.mp he with rfl | he
    · exact ⟨st, foldl_drift_descends _ _, rfl⟩
    · obtain ⟨st', hdesc, hans⟩ := ih _ (hp.2 _) _ e he
      exact ⟨st', (respond_descends hp.1).trans hdesc, hans⟩

/-- Under a turn without a fault, the provider answers from its records after the drift. -/
theorem respond_of_fault_none {sched : Nat → Turn} (st : Cloud × Nat)
    (h : (sched st.2).fault = none) (c : Call) :
    respond sched st c = (((atCall sched st).answer (sched st.2).fresh c).1,
      ((atCall sched st).answer (sched st.2).fresh c).2, st.2 + 1) := by
  simp [respond, h, atCall, Prod.map]

/-- A call that changes nothing leaves the provider's records as they are. -/
theorem answer_state_of_readOnly {s : Cloud} {fresh : Nat} {c : Call} (hc : ReadOnly c) :
    (s.answer fresh c).2 = s := by
  cases c <;> simp_all [ReadOnly, Call.mutates, answer]

/-- A steady provider keeps its records through a run that changes nothing. -/
theorem run_state_of_steady {α : Type} {p : Prog α} (hp : p.Uses ReadOnly) {sched : Nat → Turn}
    (hsteady : Steady sched) (st : Cloud × Nat) : (Prog.run (respond sched) st p).state.1 = st.1 := by
  induction p generalizing st with
  | pure a => rfl
  | call c k ih =>
    rw [Prog.run_call, ih _ (hp.2 _), respond_of_fault_none st (hsteady st.2).2]
    simp [atCall, (hsteady st.2).1, answer_state_of_readOnly hp.1]

theorem respond_listServers_ok {sched : Nat → Turn} {st : Cloud × Nat} {opts : ServerListOpts}
    {listed : List Server} (h : (respond sched st (.listServers opts)).1 = .ok listed) :
    listed = (atCall sched st).servers.filter fun server => stringsContains server.name opts.name := by
  unfold respond at h
  split at h
  · cases h
  · simp only [answer, Prod.map_fst, id_eq, Except.ok.injEq] at h
    exact h.symm

theorem respond_getServer_find? {sched : Nat → Turn} {st : Cloud × Nat} {id : String}
    {server : Server} (h : (respond sched st (.getServer id)).1 = .ok server) :
    (atCall sched st).servers.find? (·.id == id) = some server := by
  unfold respond at h
  split at h
  · cases h
  · simp only [answer, Prod.map_fst, id_eq] at h
    split at h
    next hfind => cases h; exact hfind
    next => cases h

theorem respond_getServer_notFound {sched : Nat → Turn} {st : Cloud × Nat} {id : String}
    {err : ClientError} (h : (respond sched st (.getServer id)).1 = .error err)
    (hnotFound : isNotFoundError err = true) :
    (atCall sched st).servers.find? (·.id == id) = none := by
  unfold respond at h
  split at h
  · cases h; simp [isNotFoundError] at hnotFound
  · simp only [answer, Prod.map_fst, id_eq] at h
    split at h
    next => cases h
    next hfind => exact hfind

/-! ## Lookups in a descendant -/

/-- Each server of a descendant is kept from a server of the ancestor. -/
theorem Descends.exists_identity {s t : Cloud} (h : Descends s t) {server : Server}
    (hserver : server ∈ t.servers) : ∃ old ∈ s.servers, identity old = identity server := by
  have hmem : identity server ∈ t.kept server.id :=
    List.mem_map_of_mem _ (List.mem_filter.mpr ⟨hserver, by simp⟩)
  rcases h server.id with h' | h'
  · simp [h'] at hmem
  · rw [h'] at hmem
    obtain ⟨old, hold, hid⟩ := List.mem_map.mp hmem
    exact ⟨old, (List.mem_filter.mp hold).1, hid⟩

/-- The server a descendant finds by identifier is kept from the one the ancestor finds. -/
theorem Descends.find?_eq_some {s t : Cloud} (h : Descends s t) {id : String} {server : Server}
    (hfind : t.servers.find? (·.id == id) = some server) :
    ∃ old, s.servers.find? (·.id == id) = some old ∧ identity old = identity server := by
  have hhead : (t.kept id).head? = some (identity server) := by
    simp [kept, List.head?_map, hfind]
  rcases h id with h' | h'
  · simp [h'] at hhead
  · rw [h'] at hhead
    simp only [kept, List.head?_map, List.filter_head?, Option.map_eq_some'] at hhead
    exact hhead

/-- A server the provider holds after answering a call was held before, up to status, or is the
server the call's submission was accepted as. -/
theorem respond_servers_origin {sched : Nat → Turn} {st : Cloud × Nat} {c : Call} {server : Server}
    (h : server ∈ (respond sched st c).2.1.servers) :
    (∃ old ∈ st.1.servers, identity old = identity server) ∨
      Event.acceptedServer? ⟨c, (respond sched st c).1⟩ = some server := by
  by_cases hc : Boots c
  · obtain ⟨opts, rfl | rfl⟩ := hc <;>
    · unfold respond at h ⊢
      cases hf : (sched st.2).fault with
      | some msg =>
        simp only [hf] at h
        exact .inl ((foldl_drift_descends _ _).exists_identity h)
      | none =>
        simp only [hf, answer, boot, Prod.map_fst, Prod.map_snd, id_eq] at h ⊢
        split_ifs at h ⊢
        · rcases List.mem_append.mp h with h | h
          · exact .inl ((foldl_drift_descends _ _).exists_identity h)
          · exact .inr (by rw [List.mem_singleton.mp h]; rfl)
        · exact .inl ((foldl_drift_descends _ _).exists_identity h)
  · exact .inl ((respond_descends hc).exists_identity h)

/-- **Where the servers come from.** Every server the provider holds after a run was held before
it, with the same identifier, name and metadata, or is, up to status, a server the run's
submissions were accepted as. -/
theorem run_servers_origin {α : Type} (sched : Nat → Turn) (st : Cloud × Nat) (p : Prog α)
    {server : Server} (h : server ∈ (Prog.run (respond sched) st p).state.1.servers) :
    (∃ old ∈ st.1.servers, identity old = identity server) ∨
      ∃ created ∈ acceptedServers (Prog.run (respond sched) st p).trace,
        identity created = identity server := by
  induction p generalizing st with
  | pure a => exact .inl ⟨server, h, rfl⟩
  | call c k ih =>
    simp only [Prog.run_call] at h ⊢
    rcases ih _ _ h with ⟨mid, hmid, hid⟩ | ⟨created, hcreated, hid⟩
    · rcases respond_servers_origin hmid with ⟨old, hold, hid'⟩ | hacc
      · exact .inl ⟨old, hold, hid'.trans hid⟩
      · exact .inr ⟨mid, List.mem_filterMap.mpr ⟨_, List.mem_cons_self _ _, hacc⟩, hid⟩
    · obtain ⟨e, he, hacc⟩ := List.mem_filterMap.mp hcreated
      exact .inr ⟨created, List.mem_filterMap.mpr ⟨e, List.mem_cons_of_mem _ he, hacc⟩, hid⟩

theorem count_ids_eq_length_kept (s : Cloud) (id : String) :
    (s.servers.map (·.id)).count id = (s.kept id).length := by
  simp only [kept, List.length_map, List.count, List.countP_eq_length_filter, List.filter_map,
    Function.comp_def]

/-- The provider keeps its identifiers unique: what descends from records with unique
identifiers has unique identifiers. -/
theorem Descends.nodup_ids {s t : Cloud} (h : Descends s t) (hs : (s.servers.map (·.id)).Nodup) :
    (t.servers.map (·.id)).Nodup := by
  rw [List.nodup_iff_count_le_one] at hs ⊢
  intro id
  rw [count_ids_eq_length_kept]
  rcases h id with hnone | hsame
  · simp [hnone]
  · rw [hsame, ← count_ids_eq_length_kept]
    exact hs id

/-! ## What a provider that finishes no deletion keeps -/

/-- `s'` keeps every server of `s`, up to status. -/
def Keeps (s s' : Cloud) : Prop :=
  ∀ server ∈ s.servers, ∃ server' ∈ s'.servers, identity server' = identity server

theorem Keeps.refl (s : Cloud) : Keeps s s := fun server h => ⟨server, h, rfl⟩

theorem Keeps.trans {s₁ s₂ s₃ : Cloud} (h₁ : Keeps s₁ s₂) (h₂ : Keeps s₂ s₃) : Keeps s₁ s₃ :=
  fun server h => by
    obtain ⟨server₂, h₂', hid₂⟩ := h₁ server h
    obtain ⟨server₃, h₃, hid₃⟩ := h₂ server₂ h₂'
    exact ⟨server₃, h₃, hid₃.trans hid₂⟩

theorem Keeps.of_subset {s s' : Cloud} (h : s.servers ⊆ s'.servers) : Keeps s s' :=
  fun server hserver => ⟨server, h hserver, rfl⟩

theorem drift_keeps {s : Cloud} {d : Drift} (hd : ∀ id, d ≠ .purge id) : Keeps s (s.drift d) := by
  cases d with
  | setStatus sid status =>
    intro server hserver
    refine ⟨if server.id = sid then { server with status := status } else server,
      List.mem_map_of_mem _ hserver, ?_⟩
    split <;> rfl
  | purge pid => exact absurd rfl (hd pid)

theorem foldl_drift_keeps {s : Cloud} {ds : List Drift} (hds : ∀ d ∈ ds, ∀ id, d ≠ .purge id) :
    Keeps s (ds.foldl drift s) := by
  induction ds generalizing s with
  | nil => exact Keeps.refl s
  | cons d ds ih =>
    exact (drift_keeps (hds d (List.mem_cons_self _ _))).trans
      (ih fun d' hd' => hds d' (List.mem_cons_of_mem _ hd'))

/-- Answering a call removes no server: a submission adds one, any other call keeps them. -/
theorem answer_keeps (s : Cloud) (fresh : Nat) (c : Call) : Keeps s (s.answer fresh c).2 := by
  by_cases hc : Boots c
  · obtain ⟨opts, rfl | rfl⟩ := hc <;>
    · simp only [answer, boot]
      split_ifs
      · exact Keeps.of_subset (List.subset_append_left _ _)
      · exact Keeps.refl s
  · exact Keeps.of_subset fun _ h => by rwa [answer_servers hc]

/-- A schedule under which the provider finishes no deletion. -/
def Preserving (sched : Nat → Turn) : Prop := ∀ i, ∀ d ∈ (sched i).drift, ∀ id, d ≠ .purge id

theorem respond_keeps {sched : Nat → Turn} (hsched : Preserving sched) (st : Cloud × Nat)
    (c : Call) : Keeps st.1 (respond sched st c).2.1 := by
  have hdrift : Keeps st.1 (atCall sched st) := foldl_drift_keeps (hsched st.2)
  cases hf : (sched st.2).fault with
  | none =>
    rw [respond_of_fault_none st hf]
    exact hdrift.trans (answer_keeps _ _ c)
  | some msg =>
    simp only [respond, hf]
    exact hdrift

/-- A provider that finishes no deletion keeps every server through a run. -/
theorem run_keeps {α : Type} {sched : Nat → Turn} (hsched : Preserving sched) (st : Cloud × Nat)
    (p : Prog α) : Keeps st.1 (Prog.run (respond sched) st p).state.1 := by
  induction p generalizing st with
  | pure a => exact Keeps.refl _
  | call c k ih => exact (respond_keeps hsched st c).trans (ih _ _)

/-- A server the provider accepts is in its records right after the call. -/
theorem respond_accepted_mem {sched : Nat → Turn} {st : Cloud × Nat} {c : Call} {server : Server}
    (h : Event.acceptedServer? ⟨c, (respond sched st c).1⟩ = some server) :
    server ∈ (respond sched st c).2.1.servers := by
  cases c <;> simp only [Event.acceptedServer?, reduceCtorEq] at h <;>
  · unfold respond at h ⊢
    cases hf : (sched st.2).fault with
    | some msg => simp [hf] at h
    | none =>
      simp only [hf, answer, boot, Prod.map_fst, Prod.map_snd, id_eq] at h ⊢
      split_ifs at h ⊢
      simp only [Option.some.injEq] at h
      subst h
      exact List.mem_append_right _ (List.mem_singleton_self _)

/-- **A provider that finishes no deletion keeps what it accepted.** -/
theorem run_accepted_kept {α : Type} {sched : Nat → Turn} (hsched : Preserving sched)
    (st : Cloud × Nat) (p : Prog α) {created : Server}
    (h : created ∈ acceptedServers (Prog.run (respond sched) st p).trace) :
    ∃ server ∈ (Prog.run (respond sched) st p).state.1.servers,
      identity server = identity created := by
  induction p generalizing st with
  | pure a => simp [acceptedServers] at h
  | call c k ih =>
    obtain ⟨e, he, hacc⟩ := List.mem_filterMap.mp h
    rcases List.mem_cons.mp he with rfl | he
    · exact run_keeps hsched (respond sched st c).2 _ created (respond_accepted_mem hacc)
    · exact ih _ _ (List.mem_filterMap.mpr ⟨e, he, hacc⟩)

end Cloud

end OpenStackExecutor
