import OpenStackExecutor.Idempotence
import OpenStackExecutor.CreateCleanup
import OpenStackExecutor.CreateStatus

/-!
# The machine registry

The machine controller sees the provider's records through the executor as a registry of
machines: each server carrying both ownership tags, under its encoded provider identifier, with
its name. `ListMachines` reads the registry, `CreateMachine` adds to it and `DeleteMachine`
removes from it.

Each method's step on the registry is stated once, under every schedule of the provider and
every order in which it enumerates the configured `Tags`, and a run of requests in any order is
their fold, each request with its own schedule and its own enumeration. Over a whole run, every
machine registered at the end was registered at the start, or is a server the run created for a
`CreateMachine` request of its name; so is every machine a response reports and every server the
run deletes, once at most one key of each ownership kind is configured, which makes every
enumeration find the same tag names. Every port the run deletes is deleted right after its
identifier was resolved from the name of a machine the run was asked to delete or create.

Of single requests: a successful `CreateMachine` registers its machine when the provider finishes
no deletion meanwhile, and a failed one leaves a new machine registered only when its error says
that deleting it failed; a successful `DeleteMachine` leaves no machine of the name, or of the
identifier, it was given.
-/

namespace OpenStackExecutor

open Prog

namespace Cloud

/-- The machine registry of region `region` for the ownership tags `keys`: each owned server,
under its encoded identifier, with its name. -/
def machines (region : String) (keys : TagKeys) (s : Cloud) : List (String × String) :=
  (s.servers.filter fun server => keys.matches server.metadata).map fun server =>
    (encodeProviderID region server.id, server.name)

theorem mem_machines {region : String} {keys : TagKeys} {s : Cloud} {m : String × String} :
    m ∈ s.machines region keys ↔ ∃ server ∈ s.servers, keys.matches server.metadata = true ∧
      (encodeProviderID region server.id, server.name) = m := by
  simp only [machines, List.mem_map, List.mem_filter, and_assoc]

/-- An owned server keeping the identity of a server of `s` is registered in `s`. -/
theorem machine_mem_of_identity {region : String} {keys : TagKeys} {s : Cloud}
    {old server : Server} (hold : old ∈ s.servers) (hid : identity old = identity server)
    (howned : keys.matches server.metadata = true) :
    (encodeProviderID region server.id, server.name) ∈ s.machines region keys := by
  simp only [identity, Prod.mk.injEq] at hid
  exact mem_machines.mpr ⟨old, hold, hid.2.2 ▸ howned, by rw [hid.1, hid.2.1]⟩

/-- What the provider does on its own, and every call other than a submission, registers no
machine. -/
theorem Descends.machines_subset {region : String} {keys : TagKeys} {s t : Cloud}
    (h : Descends s t) {m : String × String} (hm : m ∈ t.machines region keys) :
    m ∈ s.machines region keys := by
  obtain ⟨server, hserver, howned, rfl⟩ := mem_machines.mp hm
  obtain ⟨old, hold, hid⟩ := h.exists_identity hserver
  exact machine_mem_of_identity hold hid howned

/-- A server a `ListServers` call lists is one of the records the call is answered from. -/
theorem mem_atCall_of_listed {sched : Nat → Turn} {st : Cloud × Nat} {opts : ServerListOpts}
    {listed : List Server} (hans : (respond sched st (.listServers opts)).1 = .ok listed)
    {server : Server} (h : server ∈ listed) : server ∈ (atCall sched st).servers := by
  rw [respond_listServers_ok hans] at h
  exact (List.mem_filter.mp h).1

/-- An owned server of the records a call is answered from was registered when the call was
made. -/
theorem machine_mem_of_atCall {sched : Nat → Turn} {st : Cloud × Nat} {region : String}
    {keys : TagKeys} {server : Server} (h : server ∈ (atCall sched st).servers)
    (howned : keys.matches server.metadata = true) :
    (encodeProviderID region server.id, server.name) ∈ st.1.machines region keys :=
  (foldl_drift_descends _ _).machines_subset (mem_machines.mpr ⟨server, h, howned, rfl⟩)

/-- After any run, a registered machine was registered before it or is a server the run
created. -/
theorem run_machines_origin {α : Type} (sched : Nat → Turn) (st : Cloud × Nat) (p : Prog α)
    {region : String} {keys : TagKeys} {m : String × String}
    (hm : m ∈ (Prog.run (respond sched) st p).state.1.machines region keys) :
    m ∈ st.1.machines region keys ∨
      ∃ created ∈ acceptedServers (Prog.run (respond sched) st p).trace,
        m = (encodeProviderID region created.id, created.name) := by
  obtain ⟨server, hserver, howned, rfl⟩ := mem_machines.mp hm
  rcases run_servers_origin sched st p hserver with ⟨old, hold, hid⟩ | ⟨created, hcreated, hid⟩
  · exact .inl (machine_mem_of_identity hold hid howned)
  · simp only [identity, Prod.mk.injEq] at hid
    exact .inr ⟨created, hcreated, by rw [hid.1, hid.2.1]⟩

/-- A server accepted in a run of a program that submits only servers of name `name` and
metadata `metadata` carries them. -/
theorem accepted_submitsAs {α : Type} {p : Prog α} {name : String}
    {metadata : List (String × String)} (hp : p.Uses (SubmitsAs name metadata))
    (sched : Nat → Turn) (st : Cloud × Nat) {created : Server}
    (h : created ∈ acceptedServers (Prog.run (respond sched) st p).trace) :
    created.name = name ∧ created.metadata = metadata := by
  rcases mem_acceptedServers h with ⟨opts, he⟩ | ⟨opts, he⟩
  · obtain ⟨_, hans⟩ := mem_trace_answered _ _ _ he
    obtain ⟨hname, hmeta⟩ := respond_boot_request (.inl hans)
    obtain ⟨hname', hmeta'⟩ := hp.trace st _ he opts rfl
    exact ⟨hname.trans hname', hmeta.trans hmeta'⟩
  · obtain ⟨_, hans⟩ := mem_trace_answered _ _ _ he
    obtain ⟨hname, hmeta⟩ := respond_boot_request (.inr hans)
    obtain ⟨hname', hmeta'⟩ := hp.trace st _ he opts rfl
    exact ⟨hname.trans hname', hmeta.trans hmeta'⟩

end Cloud

/-- With unique identifiers, looking a server up by its identifier finds it. -/
theorem find?_id_of_nodup {servers : List Server} {server : Server}
    (hnodup : (servers.map (·.id)).Nodup) (hmem : server ∈ servers) :
    servers.find? (·.id == server.id) = some server := by
  have hsome : (servers.find? (·.id == server.id)).isSome :=
    List.find?_isSome.mpr ⟨server, hmem, beq_self_eq_true _⟩
  obtain ⟨found, hfound⟩ := Option.isSome_iff_exists.mp hsome
  have hid : found.id = server.id := by simpa using List.find?_some hfound
  rw [hfound, List.inj_on_of_nodup_map hnodup (List.mem_of_find?_eq_some hfound) hmem hid]

/-- An entry of the map `listedMachines` builds was in the map it started from, or is an owned
server of the listing under its encoded identifier. -/
theorem mem_listedMachines {region : String} {keys : TagKeys} {result : GoMap}
    {servers : List Server} {e : String × String}
    (h : e ∈ (listedMachines region keys result servers).entries) :
    e ∈ result.entries ∨ ∃ server ∈ servers, keys.matches server.metadata = true ∧
      (encodeProviderID region server.id, server.name) = e := by
  induction servers generalizing result with
  | nil => exact .inl h
  | cons server servers ih =>
    unfold listedMachines at h
    split_ifs at h with howned
    · rcases ih h with hins | ⟨other, hother, hown, rfl⟩
      · rcases GoMap.mem_insert hins with hold | rfl
        · exact .inl hold
        · exact .inr ⟨server, List.mem_cons_self _ _, howned, rfl⟩
      · exact .inr ⟨other, List.mem_cons_of_mem _ hother, hown, rfl⟩
    · exact (ih h).imp_right fun ⟨other, hother, hown, he⟩ =>
        ⟨other, List.mem_cons_of_mem _ hother, hown, he⟩

section

variable (pre : Prefixes) (spec : MachineProviderConfigSpec)

/-- The rollback of `CreateMachine` submits nothing. -/
theorem deleteOnFail_not_boots (machineName : String) (server : Server) (err : Error) :
    (deleteOnFail pre spec machineName server err).Uses fun c => ¬Boots c := by
  -- elaborated without the goal as expected type, which would unfold the rollback program
  refine (Uses.bind (deleteMachine_not_boots pre spec machineName _) fun r => ?_ :)
  cases r <;> trivial

/-- `CreateMachine` submits, if at all, a server of the machine's name with the configured tags
as metadata. -/
theorem createMachine_submitsAs (machineName : String) (userData : List UInt8) :
    (createMachine pre spec machineName userData).Uses
      (SubmitsAs machineName spec.tags.entries) := by
  have hread : ∀ c, ReadOnly c → SubmitsAs machineName spec.tags.entries c :=
    fun _ h => .of_not_boots h.not_boots
  have hrollback : ∀ server err, (Except.error <$> deleteOnFail pre spec machineName server err :
      Prog (Except Error String)).Uses (SubmitsAs machineName spec.tags.entries) := by
    intro server err
    have h := deleteOnFail_not_boots pre spec machineName server err
    generalize deleteOnFail pre spec machineName server err = rollback at h ⊢
    exact (h.mono fun _ => .of_not_boots).map _
  refine Uses.bind (computeServerNetworks_uses spec hread
    (fun _ => .of_not_boots (not_boots_createPort _)) machineName) fun r => ?_
  cases r with
  | error err => trivial
  | ok nws =>
    refine Uses.bind (deployServer_submitsAs spec machineName userData nws) fun r => ?_
    cases r with
    | error err => trivial
    | ok server =>
      refine Uses.bind ((waitForStatus_readOnly _ _ _ _).mono hread) fun r => ?_
      cases r with
      | error err => exact (hrollback _ _ :)
      | ok u =>
        refine Uses.bind (patchServerPortsForPodNetwork_uses spec hread
          (fun _ _ => .of_not_boots (not_boots_updatePort _ _)) _) fun r => ?_
        cases r with
        | error err => exact (hrollback _ _ :)
        | ok u => trivial

/-- A map `ListMachines` returns holds registered machines only, from the records the run
started from. -/
theorem listMachines_ok_registered {sched : Nat → Turn} {st : Cloud × Nat} {m : GoMap}
    (h : (Prog.run (Cloud.respond sched) st (listMachines pre spec)).result = .ok m)
    {e : String × String} (he : e ∈ m.entries) :
    e ∈ st.1.machines spec.region (searchTags pre spec.tags.entries) := by
  unfold listMachines at h
  split_ifs at h
  · cases h
  · simp only [bind_eq, Compute.listServers, Prog.ask, call_bind, Prog.pure_bind, run_call] at h
    cases hans : (Cloud.respond sched st (.listServers ⟨""⟩)).1 with
    | error err => simp [hans] at h
    | ok listed =>
      simp only [hans, pure_eq, run_pure, Except.ok.injEq] at h
      subst h
      rcases mem_listedMachines he with hempty | ⟨server, hserver, howned, rfl⟩
      · simp [GoMap.empty] at hempty
      · exact Cloud.machine_mem_of_atCall (Cloud.mem_atCall_of_listed hans hserver) howned

/-- The identifier `GetMachineStatus` returns is registered under the machine's name in the
records the run started from. -/
theorem getMachineStatus_ok_registered {sched : Nat → Turn} {st : Cloud × Nat}
    {machineName providerID : String}
    (h : (Prog.run (Cloud.respond sched) st (getMachineStatus pre spec machineName)).result =
      .ok providerID) :
    (providerID, machineName) ∈ st.1.machines spec.region (searchTags pre spec.tags.entries) := by
  obtain ⟨server, hr, rfl⟩ := getMachineStatus_ok spec pre h
  obtain ⟨-, listed, hans, hmatch, -⟩ := getMachineByName_ok _ pre spec hr
  have hserver : server ∈ matchingServers machineName (searchTags pre spec.tags.entries) listed :=
    hmatch ▸ List.mem_singleton_self server
  simp only [matchingServers, List.mem_filter, Bool.and_eq_true, beq_iff_eq] at hserver
  obtain ⟨hlisted, rfl, howned⟩ := hserver
  exact Cloud.machine_mem_of_atCall (Cloud.mem_atCall_of_listed hans hlisted) howned

/-- The identifier a successful `CreateMachine` returns is that of a server the run created,
under the machine's name. -/
theorem createMachine_ok_created {sched : Nat → Turn} {st : Cloud × Nat} {machineName : String}
    {userData : List UInt8} {providerID : String}
    (h : (Prog.run (Cloud.respond sched) st (createMachine pre spec machineName userData)).result =
      .ok providerID) :
    ∃ created ∈ acceptedServers
        (Prog.run (Cloud.respond sched) st (createMachine pre spec machineName userData)).trace,
      (providerID, machineName) = (encodeProviderID spec.region created.id, created.name) := by
  obtain ⟨-, ⟨-, ⟨err, herr⟩, -⟩ |
      ⟨created, hacc, ⟨hok, -⟩ | ⟨pfx, s', cause, -, -, -, -, herr⟩⟩⟩ :=
    createMachine_phases _ pre spec st machineName userData
  · rw [h] at herr
    cases herr
  · have hmem : created ∈ acceptedServers (Prog.run (Cloud.respond sched) st
        (createMachine pre spec machineName userData)).trace := by
      rw [hacc]
      exact List.mem_singleton_self _
    rw [h, Except.ok.injEq] at hok
    refine ⟨created, hmem, ?_⟩
    rw [hok, (Cloud.accepted_submitsAs (createMachine_submitsAs pre spec machineName userData)
      sched st hmem).1]
  · rw [h] at herr
    cases herr

end

/-! ## Requests -/

/-- A request of the machine controller: an executor method with its arguments. -/
inductive Request where
  | createMachine (machineName : String) (userData : List UInt8)
  | deleteMachine (machineName providerID : String)
  | getMachineStatus (machineName : String)
  | listMachines
  deriving DecidableEq, Repr

/-- The executor's answer to a request. -/
inductive Response where
  | providerID (result : Except Error String)
  | deleted (result : Except Error Unit)
  | listed (result : Except Error GoMap)
  deriving DecidableEq

section

variable (pre : Prefixes) (spec : MachineProviderConfigSpec)

/-- The executor method serving a request. -/
def serve : Request → Prog Response
  | .createMachine machineName userData =>
    .providerID <$> createMachine pre spec machineName userData
  | .deleteMachine machineName providerID =>
    .deleted <$> deleteMachine pre spec machineName providerID
  | .getMachineStatus machineName => .providerID <$> getMachineStatus pre spec machineName
  | .listMachines => .listed <$> listMachines pre spec

/-- The machines a response reports, each under its provider identifier with its name: the
entries of the map `ListMachines` returns, and the identifier `CreateMachine` or
`GetMachineStatus` returns for the machine name it was given. -/
def Request.reports : Request → Response → List (String × String)
  | .createMachine machineName _, .providerID (.ok providerID) => [(providerID, machineName)]
  | .getMachineStatus machineName, .providerID (.ok providerID) => [(providerID, machineName)]
  | .listMachines, .listed (.ok m) => m.entries
  | _, _ => []

/-- A request as the executor serves it: under the schedule `sched` the provider follows from
call number `0`, and with the configured `Tags` enumerated in the order `tags` lists them. Go
picks a map's order afresh for every `range` statement, and serving one request ranges over
`Tags` at most once: in the lookup of `GetMachineStatus` or `DeleteMachine`, in `ListMachines`,
or in the lookup of `CreateMachine`'s rollback. -/
structure Invocation where
  request : Request
  sched : Nat → Turn
  tags : GoMap

/-- Serve one request on the records `s`, under its schedule and its enumeration of `Tags`. -/
def Invocation.run (x : Invocation) (s : Cloud) : Prog.Outcome (Cloud × Nat) Response :=
  Cloud.run x.sched s (serve pre { spec with tags := x.tags } x.request)

/-- Serve the requests one after another, each as its invocation gives it, on the records the
one before left: the responses, the records at the end and every call made. -/
def serveAll : List Invocation → Cloud → List Response × Cloud × List Event
  | [], s => ([], s, [])
  | x :: requests, s =>
    ((x.run pre spec s).result :: (serveAll requests (x.run pre spec s).state.1).1,
      (serveAll requests (x.run pre spec s).state.1).2.1,
      (x.run pre spec s).trace ++ (serveAll requests (x.run pre spec s).state.1).2.2)

/-- One request's step on the registry: a machine registered after it was registered before, or
is a server it created for a `CreateMachine` request of that name. -/
theorem serve_machines_origin (request : Request) (sched : Nat → Turn) (s : Cloud)
    {keys : TagKeys} {m : String × String}
    (hm : m ∈ (Cloud.run sched s (serve pre spec request)).state.1.machines spec.region keys) :
    m ∈ s.machines spec.region keys ∨
      ∃ created ∈ acceptedServers (Cloud.run sched s (serve pre spec request)).trace,
        m = (encodeProviderID spec.region created.id, created.name) ∧
          ∃ userData, request = .createMachine created.name userData := by
  have hread : ∀ {α : Type} {p : Prog α}, p.Uses (fun c => ¬Boots c) →
      m ∈ (Cloud.run sched s p).state.1.machines spec.region keys →
        m ∈ s.machines spec.region keys :=
    fun hp hm => (Cloud.run_descends hp sched (s, 0)).machines_subset hm
  cases request with
  | createMachine machineName userData =>
    simp only [serve, Cloud.run, Prog.run_map_state, Prog.run_map_trace] at hm ⊢
    refine (Cloud.run_machines_origin sched (s, 0) _ hm).imp_right fun ⟨created, hcreated, hm⟩ =>
      ⟨created, hcreated, hm, userData, ?_⟩
    rw [(Cloud.accepted_submitsAs (createMachine_submitsAs pre spec machineName userData)
      sched (s, 0) hcreated).1]
  | deleteMachine machineName providerID =>
    exact .inl (hread ((deleteMachine_not_boots pre spec machineName providerID).map _) hm)
  | getMachineStatus machineName =>
    exact .inl (hread (((getMachineStatus_readOnly pre spec machineName).mono
      fun _ h => h.not_boots).map _) hm)
  | listMachines =>
    exact .inl (hread (((listMachines_readOnly pre spec).mono fun _ h => h.not_boots).map _) hm)

/-- Carrying an origin back over the first request of a run: what the rest of the run found
registered, or created, goes back to the start of the run or to a server the whole run created. -/
theorem serve_origin_cons (x : Invocation) (s : Cloud) {requests : List Invocation}
    {trace : List Event} {keys : TagKeys} {m : String × String}
    (h : m ∈ (x.run pre spec s).state.1.machines spec.region keys ∨
      ∃ created ∈ acceptedServers trace,
        m = (encodeProviderID spec.region created.id, created.name) ∧
          ∃ y ∈ requests, ∃ userData, y.request = .createMachine created.name userData) :
    m ∈ s.machines spec.region keys ∨
      ∃ created ∈ acceptedServers ((x.run pre spec s).trace ++ trace),
        m = (encodeProviderID spec.region created.id, created.name) ∧
          ∃ y ∈ x :: requests, ∃ userData, y.request = .createMachine created.name userData := by
  simp only [acceptedServers_append, List.mem_append]
  rcases h with hmid | ⟨created, hcreated, rfl, y, hy, hreq⟩
  · refine (serve_machines_origin pre { spec with tags := x.tags } x.request x.sched s
      hmid).imp_right ?_
    rintro ⟨created, hcreated, rfl, hreq⟩
    exact ⟨created, .inl hcreated, rfl, x, .head _, hreq⟩
  · exact .inr ⟨created, .inr hcreated, rfl, y, .tail _ hy, hreq⟩

/-- **The registry over a run of requests.** Whatever the requests, their order, the order in
which each enumerates `Tags` and the provider's behaviour at each call, every machine registered
at the end, under any ownership tags, was registered at the start, or is a server the run
created, registered under its own name, for which the run holds a `CreateMachine` request of that
name. -/
theorem serveAll_machines_origin (requests : List Invocation) (s : Cloud) (keys : TagKeys)
    (m : String × String) (hm : m ∈ (serveAll pre spec requests s).2.1.machines spec.region keys) :
    m ∈ s.machines spec.region keys ∨
      ∃ created ∈ acceptedServers (serveAll pre spec requests s).2.2,
        m = (encodeProviderID spec.region created.id, created.name) ∧
          ∃ x ∈ requests, ∃ userData, x.request = .createMachine created.name userData := by
  induction requests generalizing s with
  | nil => exact .inl hm
  | cons x requests ih => exact serve_origin_cons pre spec x s (ih _ hm)

/-- `sampleTags` enumerated the other way round. -/
def sampleTagsReversed : GoMap := ⟨[("role-node", "1"), ("cluster-shoot", "1")], by decide⟩

/-- `CreateMachine "m"` while the provider's `server-2` becomes `ACTIVE`. -/
def createSample : Invocation := ⟨.createMachine "m" [], activeAt "server-2" 3, sampleTags⟩

/-- `ListMachines` on a quiet provider, enumerating `Tags` the other way round. -/
def listSample : Invocation := ⟨.listMachines, quiet, sampleTagsReversed⟩

/-- `CreateMachine "m"` served while the provider's server `server-2` becomes `ACTIVE`: the
machine the run created is registered. -/
theorem serveAll_machines_origin_sample :
    ("openstack:///region/server-2", "m") ∈
        (serveAll samplePrefixes (sampleSpec sampleTags none) [createSample]
          (sampleCloud [])).2.1.machines "region" (searchTags samplePrefixes sampleTags.entries) ∧
      (("openstack:///region/server-2", "m") ∈ (sampleCloud []).machines "region"
          (searchTags samplePrefixes sampleTags.entries) ∨
        ∃ created ∈ acceptedServers (serveAll samplePrefixes (sampleSpec sampleTags none)
            [createSample] (sampleCloud [])).2.2,
          ("openstack:///region/server-2", "m") = (encodeProviderID "region" created.id,
            created.name) ∧
            ∃ x ∈ [createSample], ∃ userData, x.request = .createMachine created.name userData) :=
  have h : ("openstack:///region/server-2", "m") ∈
      (serveAll samplePrefixes (sampleSpec sampleTags none) [createSample]
        (sampleCloud [])).2.1.machines "region" (searchTags samplePrefixes sampleTags.entries) := by
    simp only [Cloud.machines]
    decide
  ⟨h, serveAll_machines_origin samplePrefixes (sampleSpec sampleTags none) _ _ _ _ h⟩

/-- One request's reports: a machine its response reports was registered before it, or is a
server it created for a `CreateMachine` request of that name. -/
theorem serve_reports_origin (request : Request) (sched : Nat → Turn) (s : Cloud)
    {m : String × String}
    (hm : m ∈ request.reports (Cloud.run sched s (serve pre spec request)).result) :
    m ∈ s.machines spec.region (searchTags pre spec.tags.entries) ∨
      ∃ created ∈ acceptedServers (Cloud.run sched s (serve pre spec request)).trace,
        m = (encodeProviderID spec.region created.id, created.name) ∧
          ∃ userData, request = .createMachine created.name userData := by
  cases request with
  | createMachine machineName userData =>
    simp only [serve, Cloud.run, Prog.run_map_result, Prog.run_map_trace] at hm ⊢
    cases hr : (run (Cloud.respond sched) (s, 0)
        (createMachine pre spec machineName userData)).result with
    | error err => simp [hr, Request.reports] at hm
    | ok providerID =>
      simp only [hr, Request.reports, List.mem_singleton] at hm
      obtain ⟨created, hcreated, heq⟩ := createMachine_ok_created pre spec hr
      exact .inr ⟨created, hcreated, hm.trans heq, userData, by rw [(Prod.mk.inj heq).2]⟩
  | deleteMachine machineName providerID => simp [Request.reports] at hm
  | getMachineStatus machineName =>
    simp only [serve, Cloud.run, Prog.run_map_result] at hm
    cases hr : (run (Cloud.respond sched) (s, 0)
        (getMachineStatus pre spec machineName)).result with
    | error err => simp [hr, Request.reports] at hm
    | ok providerID =>
      simp only [hr, Request.reports, List.mem_singleton] at hm
      exact .inl (hm ▸ getMachineStatus_ok_registered pre spec hr)
  | listMachines =>
    simp only [serve, Cloud.run, Prog.run_map_result] at hm
    cases hr : (run (Cloud.respond sched) (s, 0) (listMachines pre spec)).result with
    | error err => simp [hr, Request.reports] at hm
    | ok listed =>
      simp only [hr, Request.reports] at hm
      exact .inl (listMachines_ok_registered pre spec hr hm)

/-- **What the driver reports over a run of requests.** With at most one ownership key of each
kind configured, whatever the requests, their order, the order in which each enumerates `Tags`
and the provider's behaviour at each call, every machine a response of the run reports (an entry
of a `ListMachines` map, the identifier `CreateMachine` or `GetMachineStatus` returns for its
machine name) was registered at the start, or is a server the run created, under its own name,
for which the run holds a `CreateMachine` request of that name. -/
theorem serveAll_reports_origin (requests : List Invocation) (s : Cloud)
    (huniq : UniqueOwnershipKeys pre spec.tags)
    (hperm : ∀ x ∈ requests, x.tags.entries.Perm spec.tags.entries)
    (request : Request) (response : Response)
    (hresponse : (request, response) ∈
      (requests.map (·.request)).zip (serveAll pre spec requests s).1)
    (m : String × String) (hm : m ∈ request.reports response) :
    m ∈ s.machines spec.region (searchTags pre spec.tags.entries) ∨
      ∃ created ∈ acceptedServers (serveAll pre spec requests s).2.2,
        m = (encodeProviderID spec.region created.id, created.name) ∧
          ∃ x ∈ requests, ∃ userData, x.request = .createMachine created.name userData := by
  induction requests generalizing s with
  | nil => simp at hresponse
  | cons x requests ih =>
    simp only [List.map_cons, serveAll, List.zip_cons_cons, List.mem_cons, Prod.mk.injEq]
      at hresponse
    rcases hresponse with ⟨rfl, rfl⟩ | hrest
    · rw [← searchTags_perm pre (hperm x (.head _)) huniq.1 huniq.2]
      refine (serve_reports_origin pre { spec with tags := x.tags } x.request x.sched s
        hm).imp_right ?_
      rintro ⟨created, hcreated, rfl, hreq⟩
      refine ⟨created, ?_, rfl, x, .head _, hreq⟩
      simp only [serveAll, acceptedServers_append, List.mem_append]
      exact .inl hcreated
    · exact serve_origin_cons pre spec x s (ih _ (fun y hy => hperm y (.tail _ hy)) hrest)

/-- The `ListMachines` after a `CreateMachine "m"`, enumerating `Tags` the other way round,
lists the server the provider created. -/
theorem serveAll_reports_origin_sample :
    UniqueOwnershipKeys samplePrefixes sampleTags ∧
      (∀ x ∈ [createSample, listSample], x.tags.entries.Perm sampleTags.entries) ∧
      (Request.listMachines, Response.listed (.ok ⟨[("openstack:///region/server-2", "m")],
        by decide⟩)) ∈ ([createSample, listSample].map (·.request)).zip
        (serveAll samplePrefixes (sampleSpec sampleTags none) [createSample, listSample]
          (sampleCloud [])).1 ∧
      (("openstack:///region/server-2", "m") ∈ (sampleCloud []).machines "region"
          (searchTags samplePrefixes sampleTags.entries) ∨
        ∃ created ∈ acceptedServers (serveAll samplePrefixes (sampleSpec sampleTags none)
            [createSample, listSample] (sampleCloud [])).2.2,
          ("openstack:///region/server-2", "m") = (encodeProviderID "region" created.id,
            created.name) ∧
            ∃ x ∈ [createSample, listSample], ∃ userData,
              x.request = .createMachine created.name userData) :=
  have huniq : UniqueOwnershipKeys samplePrefixes sampleTags := ⟨by decide, by decide⟩
  have hperm : ∀ x ∈ [createSample, listSample], x.tags.entries.Perm sampleTags.entries := by
    decide
  have h : (Request.listMachines, Response.listed (.ok ⟨[("openstack:///region/server-2", "m")],
      by decide⟩)) ∈ ([createSample, listSample].map (·.request)).zip
      (serveAll samplePrefixes (sampleSpec sampleTags none) [createSample, listSample]
        (sampleCloud [])).1 := by decide
  ⟨huniq, hperm, h, serveAll_reports_origin samplePrefixes (sampleSpec sampleTags none) _ _ huniq
    hperm _ _ h _ (List.mem_singleton_self _)⟩

/-- With unique identifiers, records with nothing for `DeleteMachine` to locate register no
machine under what it was given: the name, or the identifier as the executor decodes it. -/
theorem NothingToDelete.unregistered {keys : TagKeys} {machineName providerID region : String}
    {t : Cloud} (h : NothingToDelete keys machineName providerID t)
    (hnodup : providerID ≠ "" → (t.servers.map (·.id)).Nodup) :
    ∀ m ∈ t.machines region keys, if providerID = "" then m.2 ≠ machineName
      else m.1 ≠ encodeProviderID region (decodeProviderID providerID) := by
  intro m hm
  obtain ⟨server, hserver, howned, rfl⟩ := Cloud.mem_machines.mp hm
  unfold NothingToDelete at h
  split_ifs at h ⊢ with hp
  · exact fun hname => absurd (h server hserver hname) (by simp [howned])
  · intro hid
    have hfind := find?_id_of_nodup (hnodup hp) hserver
    rw [encodeProviderID_injective _ hid] at hfind
    exact absurd (h server hfind) (by simp [howned])

/-- **A successful `DeleteMachine` unregisters its machine.** When `DeleteMachine` succeeds and
the provider no longer keeps a server the run saw deleted or gone, every machine registered
afterwards was registered before. Given no identifier, none is registered under the name it was
given; given one, and when the provider's identifiers are unique, none is registered under the
identifier as the executor decodes it. Unique identifiers are needed for the second case only. -/
theorem deleteMachine_unregisters (sched : Nat → Turn) (s : Cloud)
    (machineName providerID : String) (hnodup : providerID ≠ "" → (s.servers.map (·.id)).Nodup)
    (hok : (Cloud.run sched s (deleteMachine pre spec machineName providerID)).result = .ok ())
    (hgone : ∀ e ∈ (Cloud.run sched s (deleteMachine pre spec machineName providerID)).trace,
      ∀ server ∈ (Cloud.run sched s
        (deleteMachine pre spec machineName providerID)).state.1.servers,
        e.showsGone server.id = false) :
    ∀ m ∈ (Cloud.run sched s (deleteMachine pre spec machineName providerID)).state.1.machines
        spec.region (searchTags pre spec.tags.entries),
      m ∈ s.machines spec.region (searchTags pre spec.tags.entries) ∧
        if providerID = "" then m.2 ≠ machineName
        else m.1 ≠ encodeProviderID spec.region (decodeProviderID providerID) := by
  intro m hm
  have hdesc := Cloud.run_descends (deleteMachine_not_boots pre spec machineName providerID)
    sched (s, 0)
  exact ⟨hdesc.machines_subset hm, (deleteMachine_leaves_nothing pre spec hok hgone).2.unregistered
    (fun hp => hdesc.nodup_ids (hnodup hp)) m hm⟩

/-- **A successful `CreateMachine` registers its machine.** With both tag names found, when
`CreateMachine` returns `p` under a schedule that finishes no deletion, the registry afterwards
holds the machine under `p`. -/
theorem createMachine_registers (sched : Nat → Turn) (s : Cloud) (machineName : String)
    (userData : List UInt8) (p : String) (hfound : (searchTags pre spec.tags.entries).found = true)
    (hsched : Cloud.Preserving sched)
    (hok : (Cloud.run sched s (createMachine pre spec machineName userData)).result = .ok p) :
    (p, machineName) ∈ (Cloud.run sched s
      (createMachine pre spec machineName userData)).state.1.machines spec.region
        (searchTags pre spec.tags.entries) := by
  obtain ⟨created, hcreated, heq⟩ := createMachine_ok_created pre spec hok
  obtain ⟨server, hserver, hid⟩ := Cloud.run_accepted_kept hsched (s, 0) _ hcreated
  have hmeta := (Cloud.accepted_submitsAs (createMachine_submitsAs pre spec machineName userData)
    sched (s, 0) hcreated).2
  simp only [Cloud.identity, Prod.mk.injEq] at hid
  refine Cloud.mem_machines.mpr ⟨server, hserver, ?_, by rw [heq, hid.1, hid.2.1]⟩
  rw [hid.2.2, hmeta]
  exact searchTags_matches pre hfound fun _ hkey => hasKey_of_mem hkey

/-- `CreateMachine "m"` succeeds while `server-2` becomes `ACTIVE`, and `m` is registered. -/
theorem createMachine_registers_sample :
    (searchTags samplePrefixes sampleTags.entries).found = true ∧
      Cloud.Preserving (activeAt "server-2" 3) ∧
      (Cloud.run (activeAt "server-2" 3) (sampleCloud [])
        (createMachine samplePrefixes (sampleSpec sampleTags none) "m" [])).result =
          .ok "openstack:///region/server-2" ∧
      ("openstack:///region/server-2", "m") ∈ (Cloud.run (activeAt "server-2" 3) (sampleCloud [])
        (createMachine samplePrefixes (sampleSpec sampleTags none) "m" [])).state.1.machines
          "region" (searchTags samplePrefixes sampleTags.entries) :=
  have hfound : (searchTags samplePrefixes sampleTags.entries).found = true := by decide
  have hsched : Cloud.Preserving (activeAt "server-2" 3) := fun i d hd id h => by
    subst h
    unfold activeAt at hd
    split_ifs at hd <;> simp at hd
  have hok : (Cloud.run (activeAt "server-2" 3) (sampleCloud [])
      (createMachine samplePrefixes (sampleSpec sampleTags none) "m" [])).result =
        .ok "openstack:///region/server-2" := by decide
  ⟨hfound, hsched, hok, createMachine_registers samplePrefixes (sampleSpec sampleTags none) _ _ "m"
    [] _ hfound hsched hok⟩

/-! ## A failed `CreateMachine` -/

/-- A `CreateMachine` run that failed after the provider accepted `created` ends with the whole
rollback of `created`: its result, its records and the last calls it made are the rollback's. -/
theorem createMachine_rollback_run {σ : Type}
    (answer : σ → (c : Call) → Except ClientError c.Result × σ) (s : σ) (machineName : String)
    (userData : List UInt8) {err : Error} {created : Server}
    (hfail : (run answer s (createMachine pre spec machineName userData)).result = .error err)
    (hacc : created ∈
      acceptedServers (run answer s (createMachine pre spec machineName userData)).trace) :
    ∃ s' cause pfx,
      (run answer s (createMachine pre spec machineName userData)).result = (run answer s'
        (Except.error <$> deleteOnFail pre spec machineName created cause)).result ∧
      (run answer s (createMachine pre spec machineName userData)).state = (run answer s'
        (Except.error <$> deleteOnFail pre spec machineName created cause :
          Prog (Except Error String))).state ∧
      (run answer s (createMachine pre spec machineName userData)).trace = pfx ++ (run answer s'
        (Except.error <$> deleteOnFail pre spec machineName created cause :
          Prog (Except Error String))).trace := by
  have hnets := ((computeServerNetworks_uses spec (fun _ h => h.not_boots)
    (fun _ => not_boots_createPort _) machineName).submissions_eq_nil answer s).2
  simp only [createMachine, bind_eq, run_bind_result, run_bind_state, run_bind_trace,
    acceptedServers_append, hnets, List.nil_append] at hfail hacc ⊢
  cases hr₁ : (run answer s (computeServerNetworks spec machineName)).result with
  | error e => simp [hr₁] at hacc
  | ok nws =>
    simp only [hr₁] at hfail hacc ⊢
    generalize (run answer s (computeServerNetworks spec machineName)).state = s₁ at hfail hacc ⊢
    have hdeploy := (deployServer_trace answer spec s₁ machineName userData nws).2.1
    cases hr₂ : (run answer s₁ (deployServer spec machineName userData nws)).result with
    | error e => simp [hr₂, hdeploy] at hacc
    | ok server =>
      rw [hr₂] at hdeploy
      simp only [hr₂, run_bind_result, run_bind_state, run_bind_trace, acceptedServers_append,
        hdeploy] at hfail hacc ⊢
      generalize (run answer s₁ (deployServer spec machineName userData nws)).state = s₂
        at hfail hacc ⊢
      have hwait := ((waitForStatus_readOnly server.id [serverStatusBuild] [serverStatusActive]
        600).mono fun _ h => h.not_boots).submissions_eq_nil answer s₂
      simp only [hwait.2, List.nil_append] at hacc
      have hrollback : ∀ s₃ cause, created ∈ [server] ++ acceptedServers (run answer s₃
          (Except.error <$> deleteOnFail pre spec machineName server cause :
            Prog (Except Error String))).trace → created = server := fun s₃ cause h => by
        simpa [((deleteOnFail_not_boots pre spec machineName server cause).submissions_eq_nil
          answer s₃).2] using h
      cases hr₃ : (run answer s₂ (waitForStatus server.id [serverStatusBuild] [serverStatusActive]
        600)).result with
      | error e =>
        simp only [hr₃] at hfail hacc ⊢
        obtain rfl := hrollback _ _ hacc
        exact ⟨_, _, _, rfl, rfl, by rw [← List.append_assoc, ← List.append_assoc]⟩
      | ok u =>
        simp only [hr₃, run_bind_result, run_bind_state, run_bind_trace,
          acceptedServers_append] at hfail hacc ⊢
        generalize (run answer s₂ (waitForStatus server.id [serverStatusBuild]
          [serverStatusActive] 600)).state = s₃ at hfail hacc ⊢
        have hpatch := ((patchServerPortsForPodNetwork_uses spec (fun _ h => h.not_boots)
          (fun _ _ => not_boots_updatePort _ _) server.id).submissions_eq_nil answer s₃).2
        simp only [hpatch, List.nil_append] at hacc
        cases hr₄ : (run answer s₃ (patchServerPortsForPodNetwork spec server.id)).result with
        | error e =>
          simp only [hr₄] at hfail hacc ⊢
          obtain rfl := hrollback _ _ hacc
          exact ⟨_, _, _, rfl, rfl, by rw [← List.append_assoc, ← List.append_assoc,
            ← List.append_assoc]⟩
        | ok u' => simp [hr₄] at hfail

/-- **A failed `CreateMachine` leaves a new machine registered only when it says so.** When
`CreateMachine` fails, under any schedule, and the provider's identifiers are unique at the end
and it no longer keeps a server the run saw deleted or gone, every machine registered afterwards
was registered before, or is the server the run created, and then the error reports that deleting
that server failed. -/
theorem createMachine_failure_registry (sched : Nat → Turn) (s : Cloud) (machineName : String)
    (userData : List UInt8) (err : Error)
    (hfail : (Cloud.run sched s (createMachine pre spec machineName userData)).result = .error err)
    (hnodup : ((Cloud.run sched s
      (createMachine pre spec machineName userData)).state.1.servers.map (·.id)).Nodup)
    (hgone : ∀ e ∈ (Cloud.run sched s (createMachine pre spec machineName userData)).trace,
      ∀ server ∈ (Cloud.run sched s (createMachine pre spec machineName userData)).state.1.servers,
        e.showsGone server.id = false) :
    ∀ m ∈ (Cloud.run sched s (createMachine pre spec machineName userData)).state.1.machines
        spec.region (searchTags pre spec.tags.entries),
      m ∈ s.machines spec.region (searchTags pre spec.tags.entries) ∨
        ∃ created ∈ acceptedServers
            (Cloud.run sched s (createMachine pre spec machineName userData)).trace,
          m = (encodeProviderID spec.region created.id, created.name) ∧
            ∃ errIn cause, err = .wrapfWith ("error deleting server [ID=" ++ quoted created.id ++
              "] after unsuccessful creation attempt: ") errIn ". Original error: " cause := by
  intro m hm
  refine (Cloud.run_machines_origin sched (s, 0) _ hm).imp_right
    fun ⟨created, hcreated, hmc⟩ => ⟨created, hcreated, hmc, ?_⟩
  obtain ⟨s', cause, pfx, hres, hstate, htrace⟩ :=
    createMachine_rollback_run pre spec _ (s, 0) machineName userData hfail hcreated
  rw [map_eq, deleteOnFail_run] at hres hstate htrace
  dsimp only at hres hstate htrace
  cases hrb : (run (Cloud.respond sched) s' (deleteMachine pre spec machineName
      (encodeProviderID spec.region created.id))).result with
  | error errIn =>
    simp only [hrb] at hres
    exact ⟨errIn, cause, Except.error.inj (hfail.symm.trans hres)⟩
  | ok u =>
    obtain ⟨-, hnothing⟩ := deleteMachine_leaves_nothing_from pre spec hrb
      fun e he server hserver => hgone e (htrace ▸ List.mem_append_right _ he) server
        (by rw [Cloud.run, hstate]; exact hserver)
    rw [← hstate] at hnothing
    have hne := hnothing.unregistered (fun _ => hnodup) m hm
    simp only [encodeProviderID_ne_empty, if_false,
      decodeProviderID_encodeProviderID _ _ (accepted_id_no_slash hcreated)] at hne
    exact (hne (congrArg Prod.fst hmc)).elim

/-- The build of `m` as `server-2` ends in `ERROR`; the rollback deletes `server-2` and the
provider finishes the deletion. -/
theorem createMachine_failure_registry_sample :
    ∃ err, (Cloud.run failedBuild (sampleCloud [])
        (createMachine samplePrefixes (sampleSpec sampleTags none) "m" [])).result = .error err ∧
      ∀ m ∈ (Cloud.run failedBuild (sampleCloud [])
          (createMachine samplePrefixes (sampleSpec sampleTags none) "m" [])).state.1.machines
          "region" (searchTags samplePrefixes sampleTags.entries),
        m ∈ (sampleCloud []).machines "region" (searchTags samplePrefixes sampleTags.entries) ∨
          ∃ created ∈ acceptedServers (Cloud.run failedBuild (sampleCloud [])
              (createMachine samplePrefixes (sampleSpec sampleTags none) "m" [])).trace,
            m = (encodeProviderID "region" created.id, created.name) ∧
              ∃ errIn cause, err = .wrapfWith ("error deleting server [ID=" ++
                quoted created.id ++ "] after unsuccessful creation attempt: ") errIn
                ". Original error: " cause := by
  obtain ⟨err, hfail⟩ : ∃ err, (Cloud.run failedBuild (sampleCloud [])
      (createMachine samplePrefixes (sampleSpec sampleTags none) "m" [])).result = .error err :=
    ⟨_, rfl⟩
  exact ⟨err, hfail, createMachine_failure_registry samplePrefixes (sampleSpec sampleTags none)
    failedBuild (sampleCloud []) "m" [] err hfail (by decide) (by decide)⟩

/-- Owned servers `x` named `m` and `y` named `n`. -/
def pairCloud : Cloud :=
  sampleCloud [sampleServer "x" "m" "ACTIVE" sampleTags.entries,
    sampleServer "y" "n" "ACTIVE" sampleTags.entries]

/-- Deleting `m` by name, with `x` gone before the third call: `n` stays registered, `m` does
not. -/
theorem deleteMachine_unregisters_sample :
    ("" ≠ "" → (pairCloud.servers.map (·.id)).Nodup) ∧
      (Cloud.run (purgeAt "x") pairCloud
        (deleteMachine samplePrefixes (sampleSpec sampleTags none) "m" "")).result = .ok () ∧
      ∀ m ∈ (Cloud.run (purgeAt "x") pairCloud
          (deleteMachine samplePrefixes (sampleSpec sampleTags none) "m" "")).state.1.machines
          "region" (searchTags samplePrefixes sampleTags.entries),
        m ∈ pairCloud.machines "region" (searchTags samplePrefixes sampleTags.entries) ∧
          m.2 ≠ "m" :=
  ⟨fun _ => by decide, by decide, fun m hm => by
    simpa using deleteMachine_unregisters samplePrefixes (sampleSpec sampleTags none) (purgeAt "x")
      pairCloud "m" "" (fun _ => by decide) (by decide) (by decide) m hm⟩

/-! ## What a run deletes -/

/-- Every server `DeleteMachine` deletes was registered when it started: the lookup saw it owned,
in records that descend from the run's first. -/
theorem deleteMachine_deletes_registered {sched : Nat → Turn} {st : Cloud × Nat}
    {machineName providerID id : String}
    (hid : id ∈ deletedServers
      (run (Cloud.respond sched) st (deleteMachine pre spec machineName providerID)).trace) :
    ∃ name, (encodeProviderID spec.region id, name) ∈
      st.1.machines spec.region (searchTags pre spec.tags.entries) := by
  obtain ⟨server, hsid, howned, hbyID, hbyName⟩ := deleteMachine_deletes_owned pre spec hid
  have hanswered := Cloud.run_answered_descends
    (deleteMachine_not_boots pre spec machineName providerID) sched st
  have hseen : ∃ st', Cloud.Descends st.1 (Cloud.atCall sched st') ∧
      server ∈ (Cloud.atCall sched st').servers := by
    by_cases hp : providerID = ""
    · obtain ⟨-, listed, he, hmatch⟩ := hbyName hp
      obtain ⟨st', hdesc, hans⟩ := hanswered _ he
      exact ⟨st', hdesc, Cloud.mem_atCall_of_listed hans
        (List.mem_filter.mp (hmatch ▸ List.mem_singleton_self server)).1⟩
    · obtain ⟨st', hdesc, hans⟩ := hanswered _ (hbyID hp).2
      exact ⟨st', hdesc, List.mem_of_find?_eq_some (Cloud.respond_getServer_find? hans)⟩
  obtain ⟨st', hdesc, hserver⟩ := hseen
  exact ⟨server.name,
    hsid ▸ hdesc.machines_subset (Cloud.mem_machines.mpr ⟨server, hserver, howned, rfl⟩)⟩

/-- One request's deletions: a server it deletes was registered before it, or is a server it
created. -/
theorem serve_deletes_registered (request : Request) (sched : Nat → Turn) (s : Cloud) {id : String}
    (hid : id ∈ deletedServers (Cloud.run sched s (serve pre spec request)).trace) :
    (∃ name, (encodeProviderID spec.region id, name) ∈
        s.machines spec.region (searchTags pre spec.tags.entries)) ∨
      ∃ created ∈ acceptedServers (Cloud.run sched s (serve pre spec request)).trace,
        created.id = id := by
  cases request with
  | createMachine machineName userData =>
    simp only [serve, Cloud.run, Prog.run_map_trace] at hid ⊢
    exact .inr (createMachine_deleted_accepted pre spec hid)
  | deleteMachine machineName providerID =>
    simp only [serve, Cloud.run, Prog.run_map_trace] at hid
    exact .inl (deleteMachine_deletes_registered pre spec hid)
  | getMachineStatus machineName =>
    simp [serve, Cloud.run,
      ((getMachineStatus_readOnly pre spec machineName).readOnly_deletions_eq_nil _).1] at hid
  | listMachines =>
    simp [serve, Cloud.run, ((listMachines_readOnly pre spec).readOnly_deletions_eq_nil _).1] at hid

/-- **The driver deletes only the cluster's machines.** With at most one ownership key of each
kind configured, whatever the requests, their order, the order in which each enumerates `Tags`
and the provider's behaviour at each call, every server a run deletes was a registered machine of
the cluster when the run started, or is a server the run created. -/
theorem serveAll_deletes_registered (requests : List Invocation) (s : Cloud)
    (huniq : UniqueOwnershipKeys pre spec.tags)
    (hperm : ∀ x ∈ requests, x.tags.entries.Perm spec.tags.entries)
    (id : String) (hid : id ∈ deletedServers (serveAll pre spec requests s).2.2) :
    (∃ name, (encodeProviderID spec.region id, name) ∈
        s.machines spec.region (searchTags pre spec.tags.entries)) ∨
      ∃ created ∈ acceptedServers (serveAll pre spec requests s).2.2, created.id = id := by
  induction requests generalizing s with
  | nil => simp [serveAll, deletedServers] at hid
  | cons x requests ih =>
    simp only [serveAll, deletedServers_append, acceptedServers_append, List.mem_append] at hid ⊢
    rcases hid with hfirst | hrest
    · rw [← searchTags_perm pre (hperm x (.head _)) huniq.1 huniq.2]
      exact (serve_deletes_registered pre { spec with tags := x.tags } x.request x.sched s
        hfirst).imp_right fun ⟨created, hcreated, hid⟩ => ⟨created, .inl hcreated, hid⟩
    · rcases ih _ (fun y hy => hperm y (.tail _ hy)) hrest with
        ⟨name, hmid⟩ | ⟨created, hcreated, hid⟩
      · rcases serve_machines_origin pre { spec with tags := x.tags } x.request x.sched s hmid with
          hstart | ⟨created, hcreated, hm, -⟩
        · exact .inl ⟨name, hstart⟩
        · exact .inr ⟨created, .inl hcreated,
            (encodeProviderID_injective _ (congrArg Prod.fst hm)).symm⟩
      · exact .inr ⟨created, .inr hcreated, hid⟩

/-- Deleting `m` from `pairCloud`, enumerating `Tags` the other way round, deletes `x`, a
registered machine. -/
theorem serveAll_deletes_registered_sample :
    UniqueOwnershipKeys samplePrefixes sampleTags ∧
      (∀ x ∈ [(⟨.deleteMachine "m" "", purgeAt "x", sampleTagsReversed⟩ : Invocation)],
        x.tags.entries.Perm sampleTags.entries) ∧
      "x" ∈ deletedServers (serveAll samplePrefixes (sampleSpec sampleTags none)
        [⟨.deleteMachine "m" "", purgeAt "x", sampleTagsReversed⟩] pairCloud).2.2 ∧
      ((∃ name, (encodeProviderID "region" "x", name) ∈
          pairCloud.machines "region" (searchTags samplePrefixes sampleTags.entries)) ∨
        ∃ created ∈ acceptedServers (serveAll samplePrefixes (sampleSpec sampleTags none)
          [⟨.deleteMachine "m" "", purgeAt "x", sampleTagsReversed⟩] pairCloud).2.2,
          created.id = "x") :=
  have huniq : UniqueOwnershipKeys samplePrefixes sampleTags := ⟨by decide, by decide⟩
  have hperm : ∀ x ∈ [(⟨.deleteMachine "m" "", purgeAt "x", sampleTagsReversed⟩ : Invocation)],
      x.tags.entries.Perm sampleTags.entries := by decide
  have h : "x" ∈ deletedServers (serveAll samplePrefixes (sampleSpec sampleTags none)
      [⟨.deleteMachine "m" "", purgeAt "x", sampleTagsReversed⟩] pairCloud).2.2 := by decide
  ⟨huniq, hperm, h, serveAll_deletes_registered samplePrefixes (sampleSpec sampleTags none) _ _
    huniq hperm _ h⟩

/-! ## The ports a run deletes -/

/-- One request deletes a port only right after resolving the name of the machine it was asked
to delete or to create. -/
theorem serve_resolves (request : Request) (sched : Nat → Turn) (s : Cloud) :
    PortsResolved (fun machineName =>
        (∃ providerID, request = .deleteMachine machineName providerID) ∨
          ∃ userData, request = .createMachine machineName userData)
      (Cloud.run sched s (serve pre spec request)).trace := by
  cases request with
  | createMachine machineName userData =>
    simp only [serve, Cloud.run, Prog.run_map_trace]
    exact (createMachine_resolves _ pre spec _ _ _).mono fun _ h => .inr ⟨userData, h ▸ rfl⟩
  | deleteMachine machineName providerID =>
    simp only [serve, Cloud.run, Prog.run_map_trace]
    exact (deleteMachine_resolves _ pre spec _ _ _).mono fun _ h => .inl ⟨providerID, h ▸ rfl⟩
  | getMachineStatus machineName =>
    simp only [serve, Cloud.run, Prog.run_map_trace]
    exact .of_deletedPorts_eq_nil
      ((getMachineStatus_readOnly pre spec machineName).readOnly_deletions_eq_nil _).2
  | listMachines =>
    simp only [serve, Cloud.run, Prog.run_map_trace]
    exact .of_deletedPorts_eq_nil ((listMachines_readOnly pre spec).readOnly_deletions_eq_nil _).2

/-- **Ports are released by machine name.** Whatever the requests, their order, the order in
which each enumerates `Tags` and the provider's behaviour at each call, the run deletes a port
only in the call right after the one that resolved that port's identifier from the name of a
machine the run was asked to delete or to create: the port is chosen by that name alone. -/
theorem serveAll_resolves_ports (requests : List Invocation) (s : Cloud) :
    PortsResolved (fun machineName => ∃ x ∈ requests,
        (∃ providerID, x.request = .deleteMachine machineName providerID) ∨
          ∃ userData, x.request = .createMachine machineName userData)
      (serveAll pre spec requests s).2.2 := by
  induction requests generalizing s with
  | nil => exact .of_deletedPorts_eq_nil rfl
  | cons x requests ih =>
    simp only [serveAll]
    exact .append ((serve_resolves pre { spec with tags := x.tags } x.request x.sched s).mono
      fun _ h => ⟨x, .head _, h⟩) ((ih _).mono fun _ ⟨y, hy, h⟩ => ⟨y, .tail _ hy, h⟩)

/-- Deleting `m` with subnet `sub` configured deletes its server `server-0` and then the port
`port-m`, right after resolving the name `m`. -/
theorem serveAll_resolves_ports_sample :
    deletedPorts (serveAll samplePrefixes (sampleSpec sampleTags (some "sub"))
        [⟨.deleteMachine "m" "", purgedAt "server-0" 2, sampleTags⟩] portCloud).2.2 = ["port-m"] ∧
      PortsResolved (fun machineName =>
          ∃ x ∈ [(⟨.deleteMachine "m" "", purgedAt "server-0" 2, sampleTags⟩ : Invocation)],
            (∃ providerID, x.request = .deleteMachine machineName providerID) ∨
              ∃ userData, x.request = .createMachine machineName userData)
        (serveAll samplePrefixes (sampleSpec sampleTags (some "sub"))
          [⟨.deleteMachine "m" "", purgedAt "server-0" 2, sampleTags⟩] portCloud).2.2 :=
  ⟨by decide, serveAll_resolves_ports samplePrefixes (sampleSpec sampleTags (some "sub")) _ _⟩

/-! ## The servers a run submits -/

/-- The machine a request asks to create: the name a `CreateMachine` request carries. -/
def Request.creates : Request → Option String
  | .createMachine machineName _ => some machineName
  | _ => none

/-- One request submits at most one server, and only for a `CreateMachine`: a server of the
requested name with the configured tags as metadata. -/
theorem serve_submissions (request : Request) (sched : Nat → Turn) (s : Cloud) :
    ((submissions (Cloud.run sched s (serve pre spec request)).trace).map
        fun opts => (opts.opts.name, opts.opts.metadata)).Sublist
      (request.creates.map fun machineName => (machineName, spec.tags.entries)).toList := by
  have hnone : ∀ {α : Type} {p : Prog α}, p.Uses (fun c => ¬Boots c) →
      submissions (run (Cloud.respond sched) (s, 0) p).trace = [] :=
    fun hp => (hp.submissions_eq_nil _ _).1
  cases request with
  | createMachine machineName userData =>
    simp only [serve, Cloud.run, Prog.run_map_trace, Request.creates, Option.map_some',
      Option.toList]
    have has : ∀ opts ∈ submissions (run (Cloud.respond sched) (s, 0)
        (createMachine pre spec machineName userData)).trace,
        opts.opts.name = machineName ∧ opts.opts.metadata = spec.tags.entries :=
      (createMachine_submitsAs pre spec machineName userData).submissions_as _
    have hone := (createMachine_phases (Cloud.respond sched) pre spec (s, 0) machineName userData).1
    generalize submissions _ = submitted at has hone
    rcases submitted with _ | ⟨opts, _ | ⟨opts', submitted⟩⟩
    · exact List.nil_sublist _
    · obtain ⟨hname, hmeta⟩ := has opts (List.mem_singleton_self opts)
      simp [hname, hmeta]
    · simp at hone
  | deleteMachine machineName providerID =>
    simp only [serve, Cloud.run, Prog.run_map_trace,
      hnone (deleteMachine_not_boots pre spec machineName providerID)]
    simp
  | getMachineStatus machineName =>
    simp only [serve, Cloud.run, Prog.run_map_trace, hnone ((getMachineStatus_readOnly pre spec
      machineName).mono fun _ => ReadOnly.not_boots)]
    simp
  | listMachines =>
    simp only [serve, Cloud.run, Prog.run_map_trace,
      hnone ((listMachines_readOnly pre spec).mono fun _ => ReadOnly.not_boots)]
    simp

/-- **No server is submitted twice.** Whatever the requests, their order, the order in which
each enumerates `Tags` and the provider's behaviour at each call, the servers a run submits are,
in order, a sub-list of its `CreateMachine` requests: at most one per request, none for any other
request, each named after its request and carrying as metadata the `Tags` that request was
served with. -/
theorem serveAll_submissions_sublist (requests : List Invocation) (s : Cloud) :
    ((submissions (serveAll pre spec requests s).2.2).map
        fun opts => (opts.opts.name, opts.opts.metadata)).Sublist
      (requests.filterMap fun x =>
        x.request.creates.map fun machineName => (machineName, x.tags.entries)) := by
  induction requests generalizing s with
  | nil => simp [serveAll, submissions]
  | cons x requests ih =>
    obtain ⟨request, sched, tags⟩ := x
    have hcons : ((⟨request, sched, tags⟩ : Invocation) :: requests).filterMap (fun x =>
          x.request.creates.map fun machineName => (machineName, x.tags.entries)) =
        (request.creates.map fun machineName => (machineName, tags.entries)).toList ++
          requests.filterMap fun x =>
            x.request.creates.map fun machineName => (machineName, x.tags.entries) := by
      cases request <;> rfl
    simp only [serveAll, submissions_append, List.map_append, hcons]
    exact (serve_submissions pre { spec with tags := tags } request sched s).append (ih _)

/-- Creating `m` and then listing: one submission, of `m` with the tags as `CreateMachine`
enumerated them. -/
theorem serveAll_submissions_sublist_sample :
    (submissions (serveAll samplePrefixes (sampleSpec sampleTags none) [createSample, listSample]
        (sampleCloud [])).2.2).map (fun opts => (opts.opts.name, opts.opts.metadata)) =
        [("m", sampleTags.entries)] ∧
      ((submissions (serveAll samplePrefixes (sampleSpec sampleTags none)
          [createSample, listSample] (sampleCloud [])).2.2).map
          fun opts => (opts.opts.name, opts.opts.metadata)).Sublist
        ([createSample, listSample].filterMap fun x =>
          x.request.creates.map fun machineName => (machineName, x.tags.entries)) :=
  ⟨by decide, serveAll_submissions_sublist samplePrefixes (sampleSpec sampleTags none) _ _⟩

end

end OpenStackExecutor
