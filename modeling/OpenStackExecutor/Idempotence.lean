import OpenStackExecutor.Cloud.Descends
import OpenStackExecutor.DeleteSafety
import OpenStackExecutor.TagOrder
import OpenStackExecutor.StatusPoller

/-!
# `DeleteMachine` twice

After a successful `DeleteMachine`, a second one finds nothing to delete when both calls derive
the same ownership tags and the provider no longer keeps a server the first call saw deleted or
gone. Go may visit the tags in another order on the second call; with two keys of one prefix the
two calls then look for different owners, and the second deletes another server.

A successful deletion has seen the server deleted or gone, and the port pre-allocated for the
machine is deleted only after that.
-/

namespace OpenStackExecutor

open Prog

/-- The event is an answer to `GetServer id` that `waitForStatus` accepts as the server being
deleted or gone. -/
def Event.showsGone (id : String) : Event → Bool
  | ⟨.getServer id', r⟩ => id' == id && Accepting [serverStatusDeleted] r
  | _ => false

/-- Nothing in `s` that `DeleteMachine` could locate: by name, no server of exactly that name
carries both ownership tags; by identifier, the server found for it lacks one. -/
def NothingToDelete (keys : TagKeys) (machineName providerID : String) (s : Cloud) : Prop :=
  if providerID = "" then
    ∀ server ∈ s.servers, server.name = machineName → keys.matches server.metadata = false
  else
    ∀ server ∈ s.servers.find? (·.id == decodeProviderID providerID),
      keys.matches server.metadata = false

theorem NothingToDelete.descends {keys : TagKeys} {machineName providerID : String} {s t : Cloud}
    (h : NothingToDelete keys machineName providerID s) (hst : Cloud.Descends s t) :
    NothingToDelete keys machineName providerID t := by
  unfold NothingToDelete at h ⊢
  split_ifs at h ⊢
  · intro server hserver hname
    obtain ⟨old, hold, hid⟩ := hst.exists_identity hserver
    simp only [Cloud.identity, Prod.mk.injEq] at hid
    rw [← hid.2.2]
    exact h old hold (hid.2.1.trans hname)
  · intro server hserver
    obtain ⟨old, hold, hid⟩ := hst.find?_eq_some hserver
    simp only [Cloud.identity, Prod.mk.injEq] at hid
    rw [← hid.2.2]
    exact h old hold

/-- A listing for a name in which no server of exactly that name is owned has no owned match. -/
theorem matchingServers_eq_nil {keys : TagKeys} {machineName : String} {servers : List Server}
    (h : ∀ server ∈ servers, server.name = machineName → keys.matches server.metadata = false) :
    matchingServers machineName keys
      (servers.filter fun server => stringsContains server.name machineName) = [] := by
  simp only [matchingServers, List.filter_filter, List.filter_eq_nil_iff]
  intro server hserver
  by_cases hname : server.name = machineName <;> simp [hname, h server hserver]

variable (pre : Prefixes) (spec : MachineProviderConfigSpec)

/-- `DeleteMachine` on a provider with nothing to delete: a reliable provider sees the lookup
alone and success, and a steady one keeps its records. -/
theorem deleteMachine_of_nothingToDelete {sched : Nat → Turn} (hreliable : Reliable sched)
    {s : Cloud} {machineName providerID : String}
    (hlocatable : if providerID = "" then (searchTags pre spec.tags.entries).found = true
      else decodeProviderID providerID ≠ "")
    (hnothing : NothingToDelete (searchTags pre spec.tags.entries) machineName providerID s) :
    (Cloud.run sched s (deleteMachine pre spec machineName providerID)).result = .ok () ∧
      (∀ e ∈ (Cloud.run sched s (deleteMachine pre spec machineName providerID)).trace,
        e.1.mutates = false) ∧
      (Steady sched →
        (Cloud.run sched s (deleteMachine pre spec machineName providerID)).state.1 = s) := by
  have hnow := hnothing.descends (Cloud.foldl_drift_descends s (sched 0).drift)
  obtain ⟨err, hlookup, hnotFound⟩ : ∃ err,
      (run (Cloud.respond sched) (s, 0) (lookupMachine pre spec machineName providerID)).result =
        .error err ∧ err.is .errNotFound = true := by
    unfold NothingToDelete at hnow
    split_ifs at hlocatable hnow with hp
    · simp only [lookupMachine, if_pos hp,
        getMachineByName_run_found _ pre spec _ machineName hlocatable,
        Cloud.respond_of_fault_none (s, 0) (hreliable 0), Cloud.answer]
      simp only [Cloud.atCall, matchingServers_eq_nil hnow]
      exact ⟨_, rfl, by simp [Error.is]⟩
    · simp only [lookupMachine, if_neg hp,
        getMachineByProviderID_run _ pre spec _ providerID hlocatable,
        Cloud.respond_of_fault_none (s, 0) (hreliable 0), Cloud.answer]
      cases hfind : (Cloud.atCall sched (s, 0)).servers.find? (·.id == decodeProviderID providerID) with
      | none => simp [Cloud.atCall] at hfind; simp [hfind, isNotFoundError, serverIDNotFound, Error.is]
      | some server =>
        have hunowned := hnow server hfind
        simp [hunowned, serverIDNotFound, Error.is]
  unfold Cloud.run
  rw [deleteMachine_run]
  simp only [hlookup, hnotFound, if_true]
  exact ⟨trivial, fun e he => (lookupMachine_readOnly pre spec machineName providerID).trace _ e he,
    fun hsteady => Cloud.run_state_of_steady (lookupMachine_readOnly pre spec machineName providerID)
      hsteady _⟩

/-- A successful deletion of a located server saw it deleted or gone. -/
theorem deleteFoundServer_ok_observed {σ : Type}
    {answer : σ → (c : Call) → Except ClientError c.Result × σ} {s : σ} {machineName : String}
    {server : Server} (h : (run answer s (deleteFoundServer spec machineName server)).result = .ok ()) :
    ∃ e ∈ (run answer s (deleteFoundServer spec machineName server)).trace,
      e.showsGone server.id = true := by
  simp only [deleteFoundServer, bind_eq, Compute.deleteServer, Prog.ask, call_bind, pure_bind,
    run_call, List.mem_cons, exists_eq_or_imp] at h ⊢
  cases hdel : (answer s (.deleteServer server.id)).1 with
  | error err => simp [hdel] at h
  | ok u =>
    simp only [hdel, run_bind_result, run_bind_trace, List.mem_append] at h ⊢
    cases hwait : (run answer (answer s (.deleteServer server.id)).2
        (waitForStatus server.id [] [serverStatusDeleted] 300)).result with
    | error err => simp [hwait] at h
    | ok u =>
      obtain ⟨r, hr, hacc⟩ := waitForStatus_ok_accepted answer server.id [] [serverStatusDeleted]
        300 _ hwait
      exact .inr ⟨_, .inl hr, by simp [Event.showsGone, hacc]⟩

/-! ## The order of a deletion -/

/-- When `X ++ Y` is `before ++ e :: after` and `e` does not occur in `X`, then `before` extends
`X`. -/
theorem append_eq_append_cons_of_not_mem {α : Type} {X Y before after : List α} {e : α}
    (h : X ++ Y = before ++ e :: after) (he : e ∉ X) :
    ∃ mid, before = X ++ mid ∧ Y = mid ++ e :: after := by
  rcases List.append_eq_append_iff.mp h with ⟨mid, hbefore, hY⟩ | ⟨c, hX, hcons⟩
  · exact ⟨mid, hbefore, hY⟩
  · cases c with
    | nil => exact ⟨[], by simpa using hX.symm, by simpa using hcons.symm⟩
    | cons c cs =>
      obtain ⟨rfl, -⟩ := List.cons_eq_cons.mp hcons
      exact absurd (hX ▸ List.mem_append_right _ (List.mem_cons_self _ _)) he

/-- In a run of `deleteFoundServer`, a port is deleted only after the deletion of the server was
requested and the server was seen deleted or gone. -/
theorem deleteFoundServer_port_after_gone {σ : Type}
    {answer : σ → (c : Call) → Except ClientError c.Result × σ} {s : σ} {machineName : String}
    {server : Server} {before after : List Event} {e : Event}
    (htrace : (run answer s (deleteFoundServer spec machineName server)).trace =
      before ++ e :: after) (hport : e.1.deletedPort? ≠ none) :
    server.id ∈ deletedServers before ∧ ∃ e' ∈ before, e'.showsGone server.id = true := by
  simp only [deleteFoundServer, bind_eq, Compute.deleteServer, Prog.ask, call_bind, pure_bind,
    run_call] at htrace
  rw [← List.singleton_append] at htrace
  obtain ⟨mid, rfl, hrest⟩ := append_eq_append_cons_of_not_mem htrace fun h => hport (by
    rw [List.mem_singleton.mp h]
    rfl)
  refine ⟨List.mem_filterMap.mpr ⟨_, List.mem_append_left _ (List.mem_singleton_self _), rfl⟩, ?_⟩
  cases hdel : (answer s (.deleteServer server.id)).1 with
  | error err => simp [hdel] at hrest
  | ok u =>
    simp only [hdel, run_bind_trace] at hrest
    obtain ⟨mid', rfl, hport'⟩ := append_eq_append_cons_of_not_mem hrest fun h => hport
      ((waitForStatus_readOnly server.id [] [serverStatusDeleted] 300).trace _ e h).noDeletion.2
    cases hwait : (run answer (answer s (.deleteServer server.id)).2
        (waitForStatus server.id [] [serverStatusDeleted] 300)).result with
    | error err => simp [hwait] at hport'
    | ok u =>
      obtain ⟨r, hr, hacc⟩ := waitForStatus_ok_accepted answer server.id [] [serverStatusDeleted]
        300 _ hwait
      exact ⟨_, List.mem_append_right _ (List.mem_append_left _ hr), by
        simp [Event.showsGone, hacc]⟩

/-- **The port goes after the server** (spec §4.5). Whatever the clients answer, `DeleteMachine`
deletes a port only after it has requested the deletion of the server it located and then seen
that server deleted or gone. -/
theorem deleteMachine_port_after_server_gone {σ : Type}
    (answer : σ → (c : Call) → Except ClientError c.Result × σ) (s : σ)
    (machineName providerID : String) (before after : List Event) (e : Event)
    (htrace : (run answer s (deleteMachine pre spec machineName providerID)).trace =
      before ++ e :: after) (hport : e.1.deletedPort? ≠ none) :
    ∃ id ∈ deletedServers before, ∃ e' ∈ before, e'.showsGone id = true := by
  rw [deleteMachine_run] at htrace
  have hL : e ∉ (run answer s (lookupMachine pre spec machineName providerID)).trace := fun h =>
    hport ((lookupMachine_readOnly pre spec machineName providerID).trace s e h).noDeletion.2
  cases hr : (run answer s (lookupMachine pre spec machineName providerID)).result with
  | error err =>
    simp only [hr] at htrace
    exact absurd (htrace ▸ List.mem_append_right _ (List.mem_cons_self _ _)) hL
  | ok server =>
    simp only [hr] at htrace
    obtain ⟨mid, rfl, hD⟩ := append_eq_append_cons_of_not_mem htrace hL
    obtain ⟨hdel, e', he', hgone⟩ := deleteFoundServer_port_after_gone spec hD hport
    exact ⟨server.id, by simp [hdel], e', List.mem_append_right _ he', hgone⟩

/-- A provider with server `server-0`, named `m` and carrying the sample tags, and the port
`port-m` pre-allocated for `m` and bound to it. -/
def portCloud : Cloud :=
  { sampleCloud [sampleServer "server-0" "m" serverStatusActive sampleTags.entries] with
    ports := [⟨"port-m", "m", "net", "server-0", [⟨"sub"⟩], [], [], true⟩] }

/-- A schedule under which the deletion of server `id` finishes before call `i`, and no call
fails. -/
def purgedAt (id : String) (i : Nat) : Nat → Turn :=
  fun j => ⟨if j = i then [.purge id] else [], none, j⟩

/-- Deleting `m` with subnet `sub` configured: the last call deletes `port-m`, after `server-0`
was deleted and seen gone. -/
theorem deleteMachine_port_after_server_gone_sample :
    ∃ id ∈ deletedServers ((run (Cloud.respond (purgedAt "server-0" 2)) (portCloud, 0)
        (deleteMachine samplePrefixes (sampleSpec sampleTags (some "sub")) "m" "")).trace.take 4),
      ∃ e' ∈ (run (Cloud.respond (purgedAt "server-0" 2)) (portCloud, 0)
        (deleteMachine samplePrefixes (sampleSpec sampleTags (some "sub")) "m" "")).trace.take 4,
        e'.showsGone id = true :=
  deleteMachine_port_after_server_gone samplePrefixes (sampleSpec sampleTags (some "sub")) _ _ "m"
    "" _ [] ⟨.deletePort "port-m", .ok ()⟩ rfl (by simp [Call.deletedPort?])

/-- A lookup makes no call only when it stops at a configuration error, which is not "not
found". -/
theorem lookupMachine_trace_eq_nil {σ : Type}
    {answer : σ → (c : Call) → Except ClientError c.Result × σ} {s : σ}
    {machineName providerID : String}
    (h : (run answer s (lookupMachine pre spec machineName providerID)).trace = []) :
    ∃ err, (run answer s (lookupMachine pre spec machineName providerID)).result = .error err ∧
      err.is .errNotFound = false := by
  unfold lookupMachine getMachineByName getMachineByProviderID at h ⊢
  split_ifs at h ⊢ <;> first | exact ⟨_, rfl, by simp [Error.is]⟩ | simp at h

/-- A lookup that reports the machine not found leaves nothing to delete in every descendant of
the records it was answered from. -/
theorem lookupMachine_notFound_nothing {sched : Nat → Turn} {st : Cloud × Nat}
    {machineName providerID : String} {err : Error}
    (hr : (run (Cloud.respond sched) st (lookupMachine pre spec machineName providerID)).result =
      .error err) (hnotFound : err.is .errNotFound = true) {t : Cloud}
    (hdesc : Cloud.Descends (Cloud.atCall sched st) t) :
    (if providerID = "" then (searchTags pre spec.tags.entries).found = true
      else decodeProviderID providerID ≠ "") ∧
      NothingToDelete (searchTags pre spec.tags.entries) machineName providerID t := by
  by_cases hp : providerID = ""
  · subst hp
    rw [if_pos rfl]
    rw [lookupMachine, if_pos rfl] at hr
    obtain ⟨hfound, listed, hans, hM, -⟩ := getMachineByName_notFound _ pre spec hr hnotFound
    refine ⟨hfound, NothingToDelete.descends ?_ hdesc⟩
    simp only [NothingToDelete, if_true]
    intro server hserver hname
    by_contra hmatch
    have hmem : server ∈ matchingServers machineName (searchTags pre spec.tags.entries) listed := by
      simp [Cloud.respond_listServers_ok hans, matchingServers, hserver, hname, hmatch]
    simp [hM] at hmem
  · rw [if_neg hp]
    rw [lookupMachine, if_neg hp] at hr
    obtain ⟨hdecode, hcase, -⟩ := getMachineByProviderID_notFound _ pre spec hr hnotFound
    refine ⟨hdecode, NothingToDelete.descends ?_ hdesc⟩
    simp only [NothingToDelete, hp, if_false]
    intro server hserver
    rcases hcase with ⟨e, he, hnfe⟩ | ⟨found, hfound, hunowned⟩
    · rw [Cloud.respond_getServer_notFound he hnfe] at hserver
      cases hserver
    · rw [Cloud.respond_getServer_find? hfound] at hserver
      cases hserver
      exact hunowned

/-- A lookup that found `server` leaves nothing to delete in every descendant of the records it
was answered from that keeps no server of that identifier. -/
theorem lookupMachine_ok_nothing {sched : Nat → Turn} {st : Cloud × Nat}
    {machineName providerID : String} {server : Server}
    (hr : (run (Cloud.respond sched) st (lookupMachine pre spec machineName providerID)).result =
      .ok server) {t : Cloud} (hdesc : Cloud.Descends (Cloud.atCall sched st) t)
    (hgone : ∀ other ∈ t.servers, other.id ≠ server.id) :
    (if providerID = "" then (searchTags pre spec.tags.entries).found = true
      else decodeProviderID providerID ≠ "") ∧
      NothingToDelete (searchTags pre spec.tags.entries) machineName providerID t := by
  by_cases hp : providerID = ""
  · subst hp
    rw [if_pos rfl]
    rw [lookupMachine, if_pos rfl] at hr
    obtain ⟨hfound, listed, hans, hM, -⟩ := getMachineByName_ok _ pre spec hr
    refine ⟨hfound, ?_⟩
    simp only [NothingToDelete, if_true]
    intro other hother hname
    by_contra hmatch
    obtain ⟨old, hold, hid⟩ := hdesc.exists_identity hother
    simp only [Cloud.identity, Prod.mk.injEq] at hid
    have hmem : old ∈ matchingServers machineName (searchTags pre spec.tags.entries) listed := by
      simp [Cloud.respond_listServers_ok hans, matchingServers, hold, hid.2.1, hname, hid.2.2, hmatch]
    rw [hM, List.mem_singleton] at hmem
    exact hgone other hother (hid.1.symm.trans (congrArg Server.id hmem))
  · rw [if_neg hp]
    rw [lookupMachine, if_neg hp] at hr
    obtain ⟨hdecode, hget, -, -⟩ := getMachineByProviderID_ok _ pre spec hr
    refine ⟨hdecode, ?_⟩
    simp only [NothingToDelete, hp, if_false]
    intro other hother
    have hid : other.id = decodeProviderID providerID := by
      simpa using List.find?_some (show _ = some other from hother)
    exact absurd (hid.trans (Cloud.respond_getServer_id hget).symm)
      (hgone other (List.mem_of_find?_eq_some hother))

/-- After a successful `DeleteMachine`, from any call on, the machine was locatable, and nothing
is left to delete once the provider no longer keeps the servers the run saw deleted or gone. -/
theorem deleteMachine_leaves_nothing_from {sched : Nat → Turn} {st : Cloud × Nat}
    {machineName providerID : String}
    (hok : (run (Cloud.respond sched) st (deleteMachine pre spec machineName providerID)).result =
      .ok ())
    (hgone : ∀ e ∈ (run (Cloud.respond sched) st
        (deleteMachine pre spec machineName providerID)).trace,
      ∀ server ∈ (run (Cloud.respond sched) st
        (deleteMachine pre spec machineName providerID)).state.1.servers,
        e.showsGone server.id = false) :
    (if providerID = "" then (searchTags pre spec.tags.entries).found = true
      else decodeProviderID providerID ≠ "") ∧
      NothingToDelete (searchTags pre spec.tags.entries) machineName providerID
        (run (Cloud.respond sched) st (deleteMachine pre spec machineName providerID)).state.1 := by
  have hrun := deleteMachine_run (Cloud.respond sched) pre spec st machineName providerID
  have hdescOf : (run (Cloud.respond sched) st
      (deleteMachine pre spec machineName providerID)).trace ≠ [] →
      Cloud.Descends (Cloud.atCall sched st)
        (run (Cloud.respond sched) st (deleteMachine pre spec machineName providerID)).state.1 :=
    Cloud.run_descends_atCall (deleteMachine_not_boots pre spec machineName providerID)
  cases hr : (run (Cloud.respond sched) st (lookupMachine pre spec machineName providerID)).result with
  | error err =>
    have hnotFound : err.is .errNotFound = true := by
      by_contra hnf
      simp [hrun, hr, hnf] at hok
    have hcall : (run (Cloud.respond sched) st
        (lookupMachine pre spec machineName providerID)).trace ≠ [] := fun hnil => by
      obtain ⟨err', hr', hnf⟩ := lookupMachine_trace_eq_nil pre spec hnil
      rw [hr] at hr'
      cases hr'
      simp [hnf] at hnotFound
    exact lookupMachine_notFound_nothing pre spec hr hnotFound
      (hdescOf (by simpa [hrun, hr] using hcall))
  | ok server =>
    have hdone : (run (Cloud.respond sched)
        (run (Cloud.respond sched) st (lookupMachine pre spec machineName providerID)).state
        (deleteFoundServer spec machineName server)).result = .ok () := by
      simpa [hrun, hr] using hok
    obtain ⟨e, he, hshows⟩ := deleteFoundServer_ok_observed spec hdone
    have hcall : (run (Cloud.respond sched) st
        (lookupMachine pre spec machineName providerID)).trace ≠ [] := fun hnil => by
      obtain ⟨err', hr', -⟩ := lookupMachine_trace_eq_nil pre spec hnil
      rw [hr] at hr'
      cases hr'
    refine lookupMachine_ok_nothing pre spec hr (hdescOf (by simp [hrun, hr, hcall]))
      fun other hother hid => ?_
    have hkept := hgone e (by simp [hrun, hr, he]) other hother
    rw [hid, hshows] at hkept
    cases hkept

/-- After a successful `DeleteMachine` the machine was locatable, and nothing is left to delete
once the provider no longer keeps the servers the run saw deleted or gone. -/
theorem deleteMachine_leaves_nothing {sched : Nat → Turn} {s : Cloud}
    {machineName providerID : String}
    (hok : (Cloud.run sched s (deleteMachine pre spec machineName providerID)).result = .ok ())
    (hgone : ∀ e ∈ (Cloud.run sched s (deleteMachine pre spec machineName providerID)).trace,
      ∀ server ∈ (Cloud.run sched s (deleteMachine pre spec machineName providerID)).state.1.servers,
        e.showsGone server.id = false) :
    (if providerID = "" then (searchTags pre spec.tags.entries).found = true
      else decodeProviderID providerID ≠ "") ∧
      NothingToDelete (searchTags pre spec.tags.entries) machineName providerID
        (Cloud.run sched s (deleteMachine pre spec machineName providerID)).state.1 :=
  deleteMachine_leaves_nothing_from pre spec hok hgone

/-- **Idempotent deletion** (spec §4.5). When the tags have at most one key of each prefix, a
second `DeleteMachine` after a successful one, visiting the tags in any order, against a reliable
provider that no longer keeps the servers the first call saw deleted or gone, returns success
without a mutating call, and a steady provider ends where the first call left it. -/
theorem deleteMachine_idempotent (sched₁ sched₂ : Nat → Turn) (s : Cloud)
    (machineName providerID : String) (tags₂ : GoMap)
    (huniq : UniqueOwnershipKeys pre spec.tags) (hperm : List.Perm tags₂.entries spec.tags.entries)
    (hok : (Cloud.run sched₁ s (deleteMachine pre spec machineName providerID)).result = .ok ())
    (hgone : ∀ e ∈ (Cloud.run sched₁ s (deleteMachine pre spec machineName providerID)).trace,
      ∀ server ∈ (Cloud.run sched₁ s (deleteMachine pre spec machineName providerID)).state.1.servers,
        e.showsGone server.id = false)
    (hreliable : Reliable sched₂) :
    let s' := (Cloud.run sched₁ s (deleteMachine pre spec machineName providerID)).state.1
    let second := Cloud.run sched₂ s'
      (deleteMachine pre { spec with tags := tags₂ } machineName providerID)
    second.result = .ok () ∧ (∀ e ∈ second.trace, e.1.mutates = false) ∧
      (Steady sched₂ → second.state.1 = s') := by
  have hkeys := searchTags_perm pre hperm huniq.1 huniq.2
  have hsame : deleteMachine pre { spec with tags := tags₂ } machineName providerID =
      deleteMachine pre spec machineName providerID := by
    simp only [deleteMachine, lookupMachine, getMachineByName, getMachineByProviderID, hkeys]
    rfl
  obtain ⟨hlocatable, hnothing⟩ := deleteMachine_leaves_nothing pre spec hok hgone
  dsimp only
  rw [hsame]
  exact deleteMachine_of_nothingToDelete pre spec hreliable hlocatable hnothing

/-- A schedule under which the provider finishes deleting `id` before the third call. -/
def purgeAt (id : String) : Nat → Turn := fun i => ⟨if i = 2 then [.purge id] else [], none, i⟩

/-- One owned server `x` named `m`, deleted twice, the second time visiting the tags backwards. -/
theorem deleteMachine_idempotent_sample :
    (Cloud.run (purgeAt "x") (sampleCloud [sampleServer "x" "m" "ACTIVE" sampleTags.entries])
        (deleteMachine samplePrefixes (sampleSpec sampleTags none) "m" "")).result = .ok () ∧
      (Cloud.run quiet (Cloud.run (purgeAt "x")
          (sampleCloud [sampleServer "x" "m" "ACTIVE" sampleTags.entries])
          (deleteMachine samplePrefixes (sampleSpec sampleTags none) "m" "")).state.1
        (deleteMachine samplePrefixes
          { sampleSpec sampleTags none with tags := ⟨sampleTags.entries.reverse, by decide⟩ }
          "m" "")).result = .ok () :=
  have hok : (Cloud.run (purgeAt "x") (sampleCloud [sampleServer "x" "m" "ACTIVE" sampleTags.entries])
      (deleteMachine samplePrefixes (sampleSpec sampleTags none) "m" "")).result = .ok () := by
    decide
  ⟨hok, (deleteMachine_idempotent samplePrefixes (sampleSpec sampleTags none) (purgeAt "x") quiet
    (sampleCloud [sampleServer "x" "m" "ACTIVE" sampleTags.entries]) "m" ""
    ⟨sampleTags.entries.reverse, by decide⟩ ⟨by decide, by decide⟩ (by decide) hok (by decide)
    fun _ => rfl).1⟩

/-- Two owned servers named `m`, one under each cluster key of `clusterTagsAB`. -/
def twoClusterCloud : Cloud :=
  sampleCloud [sampleServer "x" "m" "ACTIVE" [("cluster-a", "1"), ("role-node", "1")],
    sampleServer "y" "m" "ACTIVE" [("cluster-b", "1"), ("role-node", "1")]]

/-- Deleting `m` twice with the tag keys visited in two orders: the first call deletes `y` and
the provider drops it after the wait saw it gone; the second call deletes `x`. -/
theorem deleteMachine_twice_deletes_another :
    List.Perm clusterTagsBA.entries clusterTagsAB.entries ∧
      (Cloud.run (purgeAt "y") twoClusterCloud
        (deleteMachine samplePrefixes (sampleSpec clusterTagsAB none) "m" "")).result = .ok () ∧
      (∀ e ∈ (Cloud.run (purgeAt "y") twoClusterCloud
          (deleteMachine samplePrefixes (sampleSpec clusterTagsAB none) "m" "")).trace,
        ∀ server ∈ (Cloud.run (purgeAt "y") twoClusterCloud
          (deleteMachine samplePrefixes (sampleSpec clusterTagsAB none) "m" "")).state.1.servers,
          e.showsGone server.id = false) ∧
      deletedServers (Cloud.run (purgeAt "x") (Cloud.run (purgeAt "y") twoClusterCloud
          (deleteMachine samplePrefixes (sampleSpec clusterTagsAB none) "m" "")).state.1
        (deleteMachine samplePrefixes (sampleSpec clusterTagsBA none) "m" "")).trace = ["x"] := by
  decide

end OpenStackExecutor
