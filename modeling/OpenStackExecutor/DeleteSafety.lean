import OpenStackExecutor.Footprint
import OpenStackExecutor.Locator
import OpenStackExecutor.Cloud.Model

/-!
# What `DeleteMachine` deletes

`DeleteMachine` deletes a server only after its lookup has located it: by identifier, the server
the provider returned for the decoded identifier; by name, the only listed server of that exact
name with both ownership tags. An ambiguous name deletes nothing and is not taken for "already
deleted". The lookup by identifier does not check that both tag names were found: without them
the located server counts as not found, so `DeleteMachine` deletes nothing and reports success.
A `CreateMachine` run submits at most one server and deletes only in its rollback,
which deletes through `DeleteMachine`, by the identifier of the server it submitted. Both delete
a port only right after resolving its identifier from the machine's name.
-/

namespace OpenStackExecutor

open Prog

/-! ## The calls after the lookup -/

/-- The calls of `deleteFoundServer` for `server`: delete it, poll it, release the port. -/
def DeleteStep (machineName : String) (server : Server) (c : Call) : Prop :=
  c = .deleteServer server.id ∨ c = .getServer server.id ∨ c = .portIDFromName machineName ∨
    ∃ portID, c = .deletePort portID

variable {σ : Type} (answer : σ → (c : Call) → Except ClientError c.Result × σ)
  (pre : Prefixes) (spec : MachineProviderConfigSpec)

theorem deletePort_uses (machineName : String) (server : Server) :
    (deletePort machineName).Uses (DeleteStep machineName server) := by
  refine Uses.bind (Uses.ask (.inr (.inr (.inl rfl)))) fun r => ?_
  cases r
  · exact Uses.ite trivial trivial
  · exact Uses.bind (Uses.ask (.inr (.inr (.inr ⟨_, rfl⟩)))) fun r => by cases r <;> trivial

theorem deleteFoundServer_uses (machineName : String) (server : Server) :
    (deleteFoundServer spec machineName server).Uses (DeleteStep machineName server) := by
  refine Uses.bind (Uses.ask (.inl rfl)) fun r => ?_
  cases r
  · trivial
  · refine Uses.bind ((waitForStatus_polls _ _ _ _).mono fun _ h => .inr (.inl h)) fun r => ?_
    cases r
    · trivial
    · exact Uses.ite (deletePort_uses machineName server) trivial

/-- `DeleteMachine` submits no server. -/
theorem deleteMachine_not_boots (machineName providerID : String) :
    (deleteMachine pre spec machineName providerID).Uses fun c => ¬Boots c := by
  refine Uses.bind ((lookupMachine_readOnly pre spec machineName providerID).mono
    fun _ => ReadOnly.not_boots) fun r => ?_
  cases r with
  | error err => exact Uses.ite trivial trivial
  | ok server =>
    refine (deleteFoundServer_uses spec machineName server).mono fun c hc => ?_
    rintro ⟨opts, rfl | rfl⟩ <;> rcases hc with hc | hc | hc | ⟨_, hc⟩ <;> cases hc

/-- A trace of `deleteFoundServer` deletes no server but the one it was given. -/
theorem DeleteStep.eq_of_mem_deletedServers {machineName id : String} {server : Server}
    {trace : List Event} (h : ∀ e ∈ trace, DeleteStep machineName server e.1)
    (hid : id ∈ deletedServers trace) : id = server.id := by
  obtain ⟨e, he, hdel⟩ := List.mem_filterMap.mp hid
  rcases h e he with hc | hc | hc | ⟨_, hc⟩ <;> simp [hc, Call.deletedServer?] at hdel
  exact hdel.symm

theorem DeleteStep.ne_listServers {machineName : String} {server : Server} {c : Call}
    (h : DeleteStep machineName server c) (opts : ServerListOpts) : c ≠ .listServers opts := by
  rcases h with rfl | rfl | rfl | ⟨_, rfl⟩ <;> simp

/-! ## Runs of `DeleteMachine` -/

/-- A run of `DeleteMachine`: the lookup, then `deleteFoundServer` on the server it found. -/
theorem deleteMachine_run (s : σ) (machineName providerID : String) :
    run answer s (deleteMachine pre spec machineName providerID) =
      let l := run answer s (lookupMachine pre spec machineName providerID)
      match l.result with
      | .error err => ⟨if err.is .errNotFound then .ok () else .error err, l.state, l.trace⟩
      | .ok server =>
        let d := run answer l.state (deleteFoundServer spec machineName server)
        ⟨d.result, d.state, l.trace ++ d.trace⟩ := by
  simp only [deleteMachine, bind_eq, run_bind]
  cases (run answer s (lookupMachine pre spec machineName providerID)).result with
  | error err => by_cases h : err.is .errNotFound = true <;> simp [h]
  | ok server => rfl

/-- `DeleteMachine` deletes only the server its lookup located. -/
theorem deleteMachine_deletes_located {s : σ} {machineName providerID id : String}
    (hid : id ∈ deletedServers (run answer s (deleteMachine pre spec machineName providerID)).trace) :
    ∃ server, (run answer s (lookupMachine pre spec machineName providerID)).result = .ok server ∧
      id = server.id := by
  have hL : deletedServers (run answer s (lookupMachine pre spec machineName providerID)).trace = [] :=
    ((lookupMachine_readOnly pre spec machineName providerID).readOnly_deletions_eq_nil s).1
  rw [deleteMachine_run] at hid
  cases hr : (run answer s (lookupMachine pre spec machineName providerID)).result with
  | error err => simp [hr, hL] at hid
  | ok server =>
    simp only [hr, deletedServers_append, hL, List.nil_append] at hid
    exact ⟨server, rfl, DeleteStep.eq_of_mem_deletedServers
      ((deleteFoundServer_uses spec machineName server).trace _) hid⟩

/-- The servers `DeleteMachine` lists are listed by its lookup. -/
theorem deleteMachine_listServers_mem {s : σ} {machineName providerID : String}
    {opts : ServerListOpts} {r : Except ClientError (List Server)}
    (h : (⟨.listServers opts, r⟩ : Event) ∈
      (run answer s (deleteMachine pre spec machineName providerID)).trace) :
    (⟨.listServers opts, r⟩ : Event) ∈
      (run answer s (lookupMachine pre spec machineName providerID)).trace := by
  rw [deleteMachine_run] at h
  cases hr : (run answer s (lookupMachine pre spec machineName providerID)).result with
  | error err => simpa [hr] using h
  | ok server =>
    simp only [hr, List.mem_append] at h
    exact h.resolve_right fun h =>
      ((deleteFoundServer_uses spec machineName server).trace _ _ h).ne_listServers opts rfl

/-- A name listed with two or more owned matches: `DeleteMachine` deletes nothing and fails with
an error that wraps `ErrMultipleFound` and not `ErrNotFound`. -/
theorem deleteMachine_ambiguous_name {s : σ} {machineName : String} {listed : List Server}
    (hlisted : (⟨.listServers ⟨machineName⟩, .ok listed⟩ : Event) ∈
      (run answer s (deleteMachine pre spec machineName "")).trace)
    (hmany : 2 ≤ (matchingServers machineName (searchTags pre spec.tags.entries) listed).length) :
    deletedServers (run answer s (deleteMachine pre spec machineName "")).trace = [] ∧
      deletedPorts (run answer s (deleteMachine pre spec machineName "")).trace = [] ∧
      ∃ err, (run answer s (deleteMachine pre spec machineName "")).result = .error err ∧
        err.is .errMultipleFound = true ∧ err.is .errNotFound = false := by
  have hl := deleteMachine_listServers_mem answer pre spec hlisted
  by_cases hfound : (searchTags pre spec.tags.entries).found = true
  · simp only [lookupMachine, if_pos, getMachineByName_run_found answer pre spec s machineName hfound,
      List.mem_singleton, Sigma.mk.inj_iff, heq_eq_eq, true_and] at hl
    obtain ⟨first, second, rest, hM⟩ : ∃ first second rest,
        matchingServers machineName (searchTags pre spec.tags.entries) listed =
          first :: second :: rest := by
      rcases hM : matchingServers machineName (searchTags pre spec.tags.entries) listed with
        _ | ⟨first, _ | ⟨second, rest⟩⟩ <;> simp_all
    rw [deleteMachine_run]
    simp [lookupMachine, getMachineByName_run_found answer pre spec s machineName hfound, ← hl,
      hM, Error.is, deletedServers, deletedPorts, Call.deletedServer?, Call.deletedPort?]
  · simp [lookupMachine, getMachineByName, hfound] at hl

/-- Without both tag names the ownership check fails for every metadata without an entry under
the empty key. -/
theorem matches_eq_false_of_not_found {keys : TagKeys} (hfound : keys.found = false)
    {metadata : List (String × String)} (hempty : hasKey metadata "" = false) :
    keys.matches metadata = false := by
  simp only [TagKeys.found, Bool.and_eq_false_iff, bne_eq_false_iff_eq] at hfound
  rcases hfound with h | h <;> simp [TagKeys.matches, h, hempty]

/-- **Without both tag names, deletion by identifier deletes nothing.** When the tags do not
yield both tag names, `DeleteMachine` given an identifier calls neither `DeleteServer` nor
`DeletePort`, whatever the clients answer, as long as the server `GetServer` returns has no
metadata under the empty key; and it reports success unless the identifier does not decode or
`GetServer` fails with an error other than "not found". -/
theorem deleteMachine_without_tag_names (s : σ) (machineName providerID : String)
    (hfound : (searchTags pre spec.tags.entries).found = false) (hprovider : providerID ≠ "")
    (hempty : ∀ server, (answer s (.getServer (decodeProviderID providerID))).1 = .ok server →
      hasKey server.metadata "" = false) :
    deletedServers (run answer s (deleteMachine pre spec machineName providerID)).trace = [] ∧
      deletedPorts (run answer s (deleteMachine pre spec machineName providerID)).trace = [] ∧
      (decodeProviderID providerID ≠ "" →
        (∀ err, (answer s (.getServer (decodeProviderID providerID))).1 = .error err →
          isNotFoundError err = true) →
        (run answer s (deleteMachine pre spec machineName providerID)).result = .ok ()) := by
  rw [deleteMachine_run]
  simp only [lookupMachine, if_neg hprovider]
  by_cases hdecode : decodeProviderID providerID = ""
  · simp [getMachineByProviderID, hdecode, Error.is]
  · rw [getMachineByProviderID_run answer pre spec s providerID hdecode]
    cases hr : (answer s (.getServer (decodeProviderID providerID))).1 with
    | error err =>
      by_cases hnf : isNotFoundError err = true <;>
        simp [hnf, serverIDNotFound, Error.is, deletedServers, deletedPorts, Call.deletedServer?,
          Call.deletedPort?]
    | ok server =>
      simp [matches_eq_false_of_not_found hfound (hempty server hr), serverIDNotFound, Error.is,
        deletedServers, deletedPorts, Call.deletedServer?, Call.deletedPort?]

/-- Tags that name the cluster but no role. -/
def clusterOnlyTags : GoMap := ⟨[("cluster-shoot", "1")], by decide⟩

/-- A provider whose server `server-0`, named `m`, carries the cluster tag only. -/
def clusterOnlyCloud : Cloud :=
  sampleCloud [sampleServer "server-0" "m" serverStatusActive clusterOnlyTags.entries]

/-- With the cluster tag alone, deleting `server-0` by its identifier reports success and deletes
nothing; the provider still keeps `server-0`. -/
theorem deleteMachine_without_role_tag_keeps_server :
    (run (Cloud.respond quiet) (clusterOnlyCloud, 0) (deleteMachine samplePrefixes
        (sampleSpec clusterOnlyTags none) "m" "openstack:///region/server-0")).result = .ok () ∧
      deletedServers (run (Cloud.respond quiet) (clusterOnlyCloud, 0) (deleteMachine samplePrefixes
        (sampleSpec clusterOnlyTags none) "m" "openstack:///region/server-0")).trace = [] ∧
      (run (Cloud.respond quiet) (clusterOnlyCloud, 0) (deleteMachine samplePrefixes
        (sampleSpec clusterOnlyTags none) "m" "openstack:///region/server-0")).state.1.servers =
        clusterOnlyCloud.servers := by
  have hanswer : (Cloud.respond quiet (clusterOnlyCloud, 0)
      (.getServer (decodeProviderID "openstack:///region/server-0"))).1 =
      .ok (sampleServer "server-0" "m" serverStatusActive clusterOnlyTags.entries) := by decide
  obtain ⟨hS, -, hok⟩ := deleteMachine_without_tag_names (Cloud.respond quiet) samplePrefixes
    (sampleSpec clusterOnlyTags none) (clusterOnlyCloud, 0) "m" "openstack:///region/server-0"
    (by decide) (by decide) fun server h => by
      rw [hanswer, Except.ok.injEq] at h
      subst h
      decide
  exact ⟨hok (by decide) (fun err h => by rw [hanswer] at h; cases h), hS, by decide⟩

/-- Against the provider, a server `DeleteMachine` deletes carries both ownership tags: by
identifier it is the server `GetServer` returned for the decoded identifier; by name it has that
exact name and is the only owned match of the listing. -/
theorem deleteMachine_deletes_owned {sched : Nat → Turn} {st : Cloud × Nat}
    {machineName providerID id : String}
    (hid : id ∈ deletedServers
      (run (Cloud.respond sched) st (deleteMachine pre spec machineName providerID)).trace) :
    ∃ server, server.id = id ∧ (searchTags pre spec.tags.entries).matches server.metadata ∧
      (providerID ≠ "" → id = decodeProviderID providerID ∧ (⟨.getServer id, .ok server⟩ : Event) ∈
        (run (Cloud.respond sched) st (deleteMachine pre spec machineName providerID)).trace) ∧
      (providerID = "" → server.name = machineName ∧ ∃ listed,
        (⟨.listServers ⟨machineName⟩, .ok listed⟩ : Event) ∈
          (run (Cloud.respond sched) st (deleteMachine pre spec machineName providerID)).trace ∧
        matchingServers machineName (searchTags pre spec.tags.entries) listed = [server]) := by
  obtain ⟨server, hr, rfl⟩ := deleteMachine_deletes_located _ pre spec hid
  have hsub : (run (Cloud.respond sched) st (lookupMachine pre spec machineName providerID)).trace ⊆
      (run (Cloud.respond sched) st (deleteMachine pre spec machineName providerID)).trace := by
    rw [deleteMachine_run]
    simp [hr]
  by_cases hp : providerID = ""
  · subst hp
    simp only [lookupMachine, if_true] at hr hsub
    obtain ⟨-, listed, -, hM, htrace⟩ := getMachineByName_ok _ pre spec hr
    obtain ⟨hname, hmatch⟩ := name_eq_of_matchingServers hM
    exact ⟨server, rfl, hmatch, fun h => absurd rfl h,
      fun _ => ⟨hname, listed, hsub (by simp [htrace]), hM⟩⟩
  · simp only [lookupMachine, hp, if_false] at hr hsub
    obtain ⟨-, hget, hmatch, htrace⟩ := getMachineByProviderID_ok _ pre spec hr
    have hserver := Cloud.respond_getServer_id hget
    refine ⟨server, rfl, hmatch, fun _ => ⟨hserver, hsub ?_⟩, fun h => absurd h hp⟩
    rw [htrace, hserver]
    exact List.mem_singleton_self _

/-! ## How `CreateMachine` ends, and its rollback -/

/-- `deployServer` submits at most one server and deletes nothing; the provider accepted a
server exactly when `deployServer` returns it. -/
theorem deployServer_trace (s : σ) (machineName : String) (userData : List UInt8)
    (nws : List ServerNetwork) :
    (submissions (run answer s (deployServer spec machineName userData nws)).trace).length ≤ 1 ∧
    acceptedServers (run answer s (deployServer spec machineName userData nws)).trace =
      (match (run answer s (deployServer spec machineName userData nws)).result with
      | .ok server => [server]
      | .error _ => []) ∧
    deletedServers (run answer s (deployServer spec machineName userData nws)).trace = [] ∧
    deletedPorts (run answer s (deployServer spec machineName userData nws)).trace = [] := by
  refine and_assoc.mp ⟨?_, (deployServer_noDeletion spec machineName userData nws).deletions_eq_nil s⟩
  have himage : (if spec.imageID ≠ "" then Pure.pure (.ok spec.imageID)
      else Compute.imageIDFromName spec.imageName : Prog (Except ClientError String)).Uses
      fun c => ¬Boots c := Uses.ite trivial (Uses.ask (ReadOnly.not_boots rfl))
  obtain ⟨hsub, hacc⟩ := himage.submissions_eq_nil answer s
  simp only [deployServer, bind_eq, run_bind_result, run_bind_trace, submissions_append,
    acceptedServers_append]
  generalize run answer s _ = image at hsub hacc ⊢
  obtain ⟨_ | imageRef, s₁, T₁⟩ := image <;> simp only [hsub, hacc, List.nil_append]
  · simp [submissions, acceptedServers]
  simp only [Compute.flavorIDFromName, Prog.ask, call_bind, Prog.pure_bind, run_call]
  generalize answer s₁ _ = flavor
  obtain ⟨_ | flavorRef, s₂⟩ := flavor
  · simp [submissions, acceptedServers, Call.submission?, Event.acceptedServer?]
  simp only [resourceInstanceBlockDevicesV2, Compute.bootFromVolume, Compute.createServer,
    Prog.ask, call_bind, Prog.pure_bind, run_call]
  split_ifs <;> simp only [run_call] <;> split <;>
    simp [submissions, acceptedServers, Call.submission?, Event.acceptedServer?, *]

/-- The rollback of `CreateMachine`: one run of `DeleteMachine`, whose failure is put in front of
the original error. -/
theorem deleteOnFail_run (s : σ) (machineName : String) (server : Server) (cause : Error) :
    run answer s ((deleteOnFail pre spec machineName server cause).bind
        fun err => Prog.pure (Except.error err : Except Error String)) =
      ⟨.error (match (run answer s (deleteMachine pre spec machineName
          (encodeProviderID spec.region server.id))).result with
        | .ok () => cause
        | .error errIn => .wrapfWith ("error deleting server [ID=" ++ quoted server.id ++
            "] after unsuccessful creation attempt: ") errIn ". Original error: " cause),
        (run answer s (deleteMachine pre spec machineName
          (encodeProviderID spec.region server.id))).state,
        (run answer s (deleteMachine pre spec machineName
          (encodeProviderID spec.region server.id))).trace⟩ := by
  simp only [deleteOnFail, bind_eq, run_bind]
  split <;> simp [*]

/-- How a `CreateMachine` run for `machineName` with outcome `o` ends (spec §4.5). Either the
provider accepted no server, and the run failed having deleted nothing; or it accepted one server
`created`, and the run either returned `created`'s encoded identifier having deleted nothing, or
failed in the wait or the port patch with `cause` and ends with one whole run of `DeleteMachine`
for that identifier, before which it deleted nothing. Its error is then `cause` when the rollback
succeeded, and otherwise the rollback's error followed by `cause`. -/
def CreateEnding (machineName : String) (o : Outcome σ (Except Error String)) : Prop :=
  (acceptedServers o.trace = [] ∧ (∃ err, o.result = .error err) ∧
      deletedServers o.trace = [] ∧ deletedPorts o.trace = []) ∨
    ∃ created, acceptedServers o.trace = [created] ∧
      ((o.result = .ok (encodeProviderID spec.region created.id) ∧
          deletedServers o.trace = [] ∧ deletedPorts o.trace = []) ∨
        ∃ pfx s' cause,
          let rollback := run answer s' (deleteMachine pre spec machineName
            (encodeProviderID spec.region created.id))
          o.trace = pfx ++ rollback.trace ∧ deletedServers pfx = [] ∧ deletedPorts pfx = [] ∧
          (∃ err, cause = .wrapf ("error waiting for server " ++ "[ID=" ++ quoted created.id ++
              "] to reach target status: ") err "" ∨
            cause = .errorf ("failed to patch server " ++ "[ID=" ++ quoted created.id ++
              "] ports: ") err "") ∧
          o.result = .error (match rollback.result with
            | .ok () => cause
            | .error errIn => .wrapfWith ("error deleting server [ID=" ++ quoted created.id ++
                "] after unsuccessful creation attempt: ") errIn ". Original error: " cause))

/-- The phases of a `CreateMachine` run, whatever the clients answer: it submits at most one
server, and ends as `CreateEnding` describes. -/
theorem createMachine_phases (s : σ) (machineName : String) (userData : List UInt8) :
    (submissions (run answer s (createMachine pre spec machineName userData)).trace).length ≤ 1 ∧
      CreateEnding answer pre spec machineName
        (run answer s (createMachine pre spec machineName userData)) := by
  unfold CreateEnding
  dsimp only
  obtain ⟨hsub₁, hacc₁, hdelS₁, hdelP₁⟩ := (computeServerNetworks_uses spec
    (fun _ => ReadOnly.prepares) (fun _ => ⟨not_boots_createPort _, rfl, rfl⟩)
    machineName).prepares_trace answer s
  simp only [createMachine, bind_eq, run_bind_result, run_bind_trace, submissions_append,
    acceptedServers_append, deletedServers_append, deletedPorts_append, hsub₁, hacc₁, hdelS₁,
    hdelP₁, List.nil_append]
  cases hr₁ : (run answer s (computeServerNetworks spec machineName)).result with
  | error err => simp
  | ok nws =>
    simp only
    generalize (run answer s (computeServerNetworks spec machineName)).state = s₁
    obtain ⟨hsub₂, hacc₂, hdelS₂, hdelP₂⟩ := deployServer_trace answer spec s₁ machineName userData nws
    simp only [run_bind_result, run_bind_trace, submissions_append, acceptedServers_append,
      deletedServers_append, deletedPorts_append, hdelS₂, hdelP₂, List.nil_append]
    cases hr₂ : (run answer s₁ (deployServer spec machineName userData nws)).result with
    | error err =>
      rw [hr₂] at hacc₂
      simp [hacc₂, hsub₂]
    | ok created =>
      rw [hr₂] at hacc₂
      simp only [hacc₂]
      generalize (run answer s₁ (deployServer spec machineName userData nws)).state = s₂
      obtain ⟨hsub₃, hacc₃, hdelS₃, hdelP₃⟩ := ((waitForStatus_readOnly created.id
        [serverStatusBuild] [serverStatusActive] 600).mono fun _ => ReadOnly.prepares).prepares_trace
        answer s₂
      simp only [run_bind_result, run_bind_trace, submissions_append, acceptedServers_append,
        deletedServers_append, deletedPorts_append, hsub₃, hacc₃, hdelS₃, hdelP₃, List.nil_append,
        List.append_nil]
      cases hr₃ : (run answer s₂ (waitForStatus created.id [serverStatusBuild] [serverStatusActive]
        600)).result with
      | error err =>
        simp only [map_eq, deleteOnFail_run]
        generalize (run answer s₂ (waitForStatus created.id [serverStatusBuild] [serverStatusActive]
          600)).state = s₃
        obtain ⟨hsubR, haccR⟩ := (deleteMachine_not_boots pre spec machineName
          (encodeProviderID spec.region created.id)).submissions_eq_nil answer s₃
        simp only [hsubR, haccR, List.append_nil]
        exact ⟨hsub₂, .inr ⟨created, rfl, .inr ⟨_, s₃, _,
          by rw [← List.append_assoc, ← List.append_assoc],
          by simp [hdelS₁, hdelS₂, hdelS₃], by simp [hdelP₁, hdelP₂, hdelP₃], ⟨err, .inl rfl⟩, rfl⟩⟩⟩
      | ok u =>
        generalize (run answer s₂ (waitForStatus created.id [serverStatusBuild] [serverStatusActive]
          600)).state = s₃
        obtain ⟨hsub₄, hacc₄, hdelS₄, hdelP₄⟩ := (patchServerPortsForPodNetwork_uses spec
          (fun _ => ReadOnly.prepares) (fun _ _ => ⟨not_boots_updatePort _ _, rfl, rfl⟩)
          created.id).prepares_trace answer s₃
        simp only [run_bind_result, run_bind_trace, submissions_append, acceptedServers_append,
          deletedServers_append, deletedPorts_append, hsub₄, hacc₄, hdelS₄, hdelP₄, List.nil_append,
          List.append_nil]
        cases hr₄ : (run answer s₃ (patchServerPortsForPodNetwork spec created.id)).result with
        | error err =>
          simp only [map_eq, deleteOnFail_run]
          generalize (run answer s₃ (patchServerPortsForPodNetwork spec created.id)).state = s₄
          obtain ⟨hsubR, haccR⟩ := (deleteMachine_not_boots pre spec machineName
            (encodeProviderID spec.region created.id)).submissions_eq_nil answer s₄
          simp only [hsubR, haccR, List.append_nil]
          exact ⟨hsub₂, .inr ⟨created, rfl, .inr ⟨_, s₄, _,
            by rw [← List.append_assoc, ← List.append_assoc, ← List.append_assoc],
            by simp [hdelS₁, hdelS₂, hdelS₃, hdelS₄], by simp [hdelP₁, hdelP₂, hdelP₃, hdelP₄],
            ⟨err, .inr rfl⟩, rfl⟩⟩⟩
        | ok u' =>
          simp [hsub₂, hdelS₁, hdelS₂, hdelS₃, hdelS₄, hdelP₁, hdelP₂, hdelP₃, hdelP₄]
/-- Every deleting call of a `CreateMachine` run is made by the rollback's `DeleteMachine`, for a
server the run submitted. -/
theorem createMachine_deletion_source {s : σ} {machineName : String} {userData : List UInt8}
    {e : Event} (he : e ∈ (run answer s (createMachine pre spec machineName userData)).trace)
    (hdel : ¬NoDeletion e.1) :
    ∃ created s', ((∃ opts, (⟨.createServer opts, .ok created⟩ : Event) ∈
          (run answer s (createMachine pre spec machineName userData)).trace) ∨
        ∃ opts, (⟨.bootFromVolume opts, .ok created⟩ : Event) ∈
          (run answer s (createMachine pre spec machineName userData)).trace) ∧
      (run answer s' (deleteMachine pre spec machineName
        (encodeProviderID spec.region created.id))).trace ⊆
        (run answer s (createMachine pre spec machineName userData)).trace ∧
      e ∈ (run answer s' (deleteMachine pre spec machineName
        (encodeProviderID spec.region created.id))).trace := by
  have hnil : ∀ {T : List Event}, e ∈ T → deletedServers T = [] → deletedPorts T = [] → False :=
    fun hT hS hP => hdel ⟨List.filterMap_eq_nil_iff.mp hS e hT, List.filterMap_eq_nil_iff.mp hP e hT⟩
  obtain ⟨-, ⟨-, -, hS, hP⟩ | ⟨created, hacc, ⟨-, hS, hP⟩ | ⟨pfx, s', -, htrace, hS, hP, -⟩⟩⟩ :=
    createMachine_phases answer pre spec s machineName userData
  · exact (hnil he hS hP).elim
  · exact (hnil he hS hP).elim
  · rw [htrace] at he ⊢
    rcases List.mem_append.mp he with he | he
    · exact (hnil he hS hP).elim
    · exact ⟨created, s', (mem_acceptedServers (hacc ▸ List.mem_singleton_self created)).imp
        (fun ⟨opts, h⟩ => ⟨opts, htrace ▸ h⟩) fun ⟨opts, h⟩ => ⟨opts, htrace ▸ h⟩,
        List.subset_append_right _ _, he⟩

/-- A call that deletes a server is not free of deletions. -/
theorem not_noDeletion_of_deletedServer {c : Call} {id : String} (h : c.deletedServer? = some id) :
    ¬NoDeletion c :=
  fun hc => by simp [hc.1] at h

/-! ## Ownership of every deleted server -/

/-- `DeleteMachine` never deletes a server it does not own, and neither does the rollback of
`CreateMachine`. Every server deleted by `DeleteMachine` carries both ownership tags; with an
identifier it is the server `GetServer` returned for the decoded identifier, without one it has
exactly the machine's name and is the only owned match of the listing. When the listing has two
or more owned matches nothing is deleted and the error is not taken for "not found". Every
server the rollback deletes is owned and is the one the run submitted, located by its encoded
identifier. -/
theorem deleteMachine_deletes_only_owned (sched : Nat → Turn) (st : Cloud × Nat)
    (machineName providerID : String) (userData : List UInt8) :
    let keys := searchTags pre spec.tags.entries
    let del := run (Cloud.respond sched) st (deleteMachine pre spec machineName providerID)
    let create := run (Cloud.respond sched) st (createMachine pre spec machineName userData)
    (∀ id ∈ deletedServers del.trace, ∃ server, server.id = id ∧ keys.matches server.metadata ∧
      (providerID ≠ "" → id = decodeProviderID providerID ∧
        (⟨.getServer id, .ok server⟩ : Event) ∈ del.trace) ∧
      (providerID = "" → server.name = machineName ∧ ∃ listed,
        (⟨.listServers ⟨machineName⟩, .ok listed⟩ : Event) ∈ del.trace ∧
        matchingServers machineName keys listed = [server])) ∧
    (providerID = "" → ∀ listed, (⟨.listServers ⟨machineName⟩, .ok listed⟩ : Event) ∈ del.trace →
      2 ≤ (matchingServers machineName keys listed).length →
      deletedServers del.trace = [] ∧ deletedPorts del.trace = [] ∧
      ∃ err, del.result = .error err ∧ err.is .errMultipleFound ∧ err.is .errNotFound = false) ∧
    (∀ id ∈ deletedServers create.trace, ∃ created server,
      ((∃ opts, (⟨.createServer opts, .ok created⟩ : Event) ∈ create.trace) ∨
        ∃ opts, (⟨.bootFromVolume opts, .ok created⟩ : Event) ∈ create.trace) ∧
      id = decodeProviderID (encodeProviderID spec.region created.id) ∧ server.id = id ∧
      keys.matches server.metadata ∧ (⟨.getServer id, .ok server⟩ : Event) ∈ create.trace) := by
  dsimp only
  refine ⟨fun id hid => deleteMachine_deletes_owned pre spec hid, ?_, ?_⟩
  · rintro rfl listed hlisted hmany
    exact deleteMachine_ambiguous_name _ pre spec hlisted hmany
  · intro id hid
    obtain ⟨e, he, hdeleted⟩ := List.mem_filterMap.mp hid
    obtain ⟨created, st', hcreated, hsub, he'⟩ := createMachine_deletion_source _ pre spec he
      (not_noDeletion_of_deletedServer hdeleted)
    have hdel : id ∈ deletedServers (run (Cloud.respond sched) st' (deleteMachine pre spec
        machineName (encodeProviderID spec.region created.id))).trace :=
      List.mem_filterMap.mpr ⟨e, he', hdeleted⟩
    obtain ⟨server, hserver, hmatch, hbyID, -⟩ := deleteMachine_deletes_owned pre spec hdel
    obtain ⟨hdecode, hget⟩ := hbyID (encodeProviderID_ne_empty _ _)
    exact ⟨created, server, hcreated, hdecode, hserver, hmatch, hsub hget⟩

/-! ## Released ports

`deletePort` never picks a port by its tags or by the server it was bound to: it asks the Network
client for the identifier of the one port named after the machine and deletes that identifier in
its next call. -/

/-- Every port deletion of `trace` comes right after the call that resolved that port's
identifier from the name of a machine in `names`. -/
def PortsResolved (names : String → Prop) (trace : List Event) : Prop :=
  ∀ (before : List Event) portID (r : Except ClientError Unit) (after : List Event),
    trace = before ++ (⟨.deletePort portID, r⟩ :: after : List Event) →
    ∃ machineName pfx, names machineName ∧
      before = pfx ++ ([⟨.portIDFromName machineName, .ok portID⟩] : List Event)

theorem PortsResolved.of_deletedPorts_eq_nil {names : String → Prop} {trace : List Event}
    (h : deletedPorts trace = []) : PortsResolved names trace := by
  rintro before portID r after rfl
  simp [deletedPorts, Call.deletedPort?] at h

theorem PortsResolved.append {names : String → Prop} {t₁ t₂ : List Event}
    (h₁ : PortsResolved names t₁) (h₂ : PortsResolved names t₂) :
    PortsResolved names (t₁ ++ t₂) := by
  intro before portID r after h
  rcases List.append_eq_append_iff.mp h with ⟨mid, rfl, hmid⟩ | ⟨_ | ⟨e, mid⟩, hbefore, hafter⟩
  · obtain ⟨machineName, pfx, hname, rfl⟩ := h₂ mid portID r after hmid
    exact ⟨machineName, t₁ ++ pfx, hname, (List.append_assoc _ _ _).symm⟩
  · -- a deletion at the head of `t₂` has nothing before it in `t₂`
    obtain ⟨_, pfx, -, hnil⟩ := h₂ [] portID r after hafter.symm
    simp at hnil
  · obtain ⟨rfl, rfl⟩ := List.cons_eq_cons.mp hafter
    exact h₁ before portID r mid hbefore

theorem PortsResolved.mono {names names' : String → Prop} {trace : List Event}
    (h : PortsResolved names trace) (himp : ∀ machineName, names machineName → names' machineName) :
    PortsResolved names' trace := fun before portID r after htrace =>
  let ⟨machineName, pfx, hname, hbefore⟩ := h before portID r after htrace
  ⟨machineName, pfx, himp _ hname, hbefore⟩

theorem deletePort_resolves (s : σ) (machineName : String) :
    PortsResolved (· = machineName) (run answer s (deletePort machineName)).trace := by
  simp only [deletePort, bind_eq, Network.portIDFromName, Prog.ask, call_bind, pure_bind, run_call]
  generalize answer s (.portIDFromName machineName) = resolved
  obtain ⟨_ | portID, s'⟩ := resolved
  · exact .of_deletedPorts_eq_nil (by dsimp only; split <;> rfl)
  · simp only [Network.deletePort, Prog.ask, call_bind, pure_bind, run_call]
    generalize answer s' (.deletePort portID) = released
    obtain ⟨_ | u, s''⟩ := released <;>
    · rintro before portID' r after htrace
      rcases before with _ | ⟨e, _ | ⟨e', before⟩⟩ <;>
        simp only [List.nil_append, List.cons_append, List.cons.injEq] at htrace
      · cases congrArg Sigma.fst htrace.1
      · obtain ⟨rfl, hdel, -⟩ := htrace
        cases congrArg Sigma.fst hdel
        exact ⟨machineName, [], rfl, rfl⟩
      · simp at htrace

theorem deleteFoundServer_resolves (s : σ) (machineName : String) (server : Server) :
    PortsResolved (· = machineName)
      (run answer s (deleteFoundServer spec machineName server)).trace := by
  simp only [deleteFoundServer, bind_eq, Compute.deleteServer, Prog.ask, call_bind, pure_bind,
    run_call]
  rw [← List.singleton_append]
  refine .append (.of_deletedPorts_eq_nil rfl) ?_
  generalize answer s (.deleteServer server.id) = deleted
  obtain ⟨_ | u, s₁⟩ := deleted
  · exact .of_deletedPorts_eq_nil rfl
  simp only [run_bind_trace]
  refine .append (.of_deletedPorts_eq_nil
    ((waitForStatus_readOnly _ _ _ _).readOnly_deletions_eq_nil s₁).2) ?_
  generalize run answer s₁ (waitForStatus server.id [] [serverStatusDeleted] 300) = waited
  obtain ⟨_ | u, s₂, _⟩ := waited
  · exact .of_deletedPorts_eq_nil rfl
  dsimp only
  split
  · exact deletePort_resolves answer s₂ machineName
  · exact .of_deletedPorts_eq_nil rfl

/-- A `DeleteMachine` run deletes a port only right after resolving the machine's own name. -/
theorem deleteMachine_resolves (s : σ) (machineName providerID : String) :
    PortsResolved (· = machineName)
      (run answer s (deleteMachine pre spec machineName providerID)).trace := by
  have hlookup : deletedPorts (run answer s (lookupMachine pre spec machineName providerID)).trace =
      [] := ((lookupMachine_readOnly pre spec machineName providerID).readOnly_deletions_eq_nil s).2
  rw [deleteMachine_run]
  dsimp only
  split
  · exact .of_deletedPorts_eq_nil hlookup
  · exact .append (.of_deletedPorts_eq_nil hlookup) (deleteFoundServer_resolves answer spec _ _ _)

/-- So does a `CreateMachine` run, whose only deletions are its rollback's. -/
theorem createMachine_resolves (s : σ) (machineName : String) (userData : List UInt8) :
    PortsResolved (· = machineName)
      (run answer s (createMachine pre spec machineName userData)).trace := by
  obtain ⟨-, ⟨-, -, -, hP⟩ | ⟨created, -, ⟨-, -, hP⟩ | ⟨pfx, s', -, htrace, -, hP, -⟩⟩⟩ :=
    createMachine_phases answer pre spec s machineName userData
  · exact .of_deletedPorts_eq_nil hP
  · exact .of_deletedPorts_eq_nil hP
  · rw [htrace]
    exact .append (.of_deletedPorts_eq_nil hP) (deleteMachine_resolves answer pre spec s' _ _)

end OpenStackExecutor
