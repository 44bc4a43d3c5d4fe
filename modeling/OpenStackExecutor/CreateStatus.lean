import OpenStackExecutor.Cloud.Descends
import OpenStackExecutor.DeleteSafety
import OpenStackExecutor.TagOrder

/-!
# `CreateMachine` and `GetMachineStatus` agree

`patchServerPortsForPodNetwork` and `verifyServerPortsForPodNetwork` select the server's ports
through the same `computePodNetworkIDs`. The provider resolves network names from a catalogue
that no call changes, so both select the same ports as long as the server exists; the patch has
allowed the pod network on each of them, and the check passes. The two halves meet at
`PatchInv`, the view of the server's pod-network ports that every step of the patch keeps.

The name lookup of the status finds the created server when it is the only owned server of that
name, but only once both tag names are found: `CreateMachine` never looks at the tag names, and
a role key that also names the cluster is taken for the cluster tag, so the status can fail
after a successful creation.

The status and the enumeration agree as well: the server a status locates by name was listed, so
it is a server the provider kept from its earlier records, and `ListMachines` maps its identifier
to its name as long as no two servers share an identifier.
-/

namespace OpenStackExecutor

open Prog

namespace Cloud

theorem foldl_drift_networks (s : Cloud) (ds : List Drift) :
    (ds.foldl drift s).networks = s.networks := by
  induction ds generalizing s with
  | nil => rfl
  | cons d ds ih => rw [List.foldl_cons, ih]; cases d <;> rfl

theorem answer_networks (s : Cloud) (fresh : Nat) (c : Call) :
    (s.answer fresh c).2.networks = s.networks := by
  cases c <;> simp only [answer, boot] <;> first | rfl | (split <;> rfl)

/-- No call and no drift changes the network catalogue. -/
theorem run_networks {α : Type} (sched : Nat → Turn) (st : Cloud × Nat) (p : Prog α) :
    (Prog.run (respond sched) st p).state.1.networks = st.1.networks := by
  induction p generalizing st with
  | pure a => rfl
  | call c k ih =>
    rw [Prog.run_call, ih]
    unfold respond
    split <;> simp [foldl_drift_networks, answer_networks]

end Cloud

variable (spec : MachineProviderConfigSpec)

/-- A network id the provider resolved once, a provider without failures resolves again from
the same catalogue. -/
theorem resolveNetworkID_ok_again {sched sched' : Nat → Turn} {st st' : Cloud × Nat}
    {network : OpenStackNetwork} {id : String}
    (h : (run (Cloud.respond sched) st (resolveNetworkID network)).result = .ok id)
    (hreliable : Reliable sched') (hnetworks : st'.1.networks = st.1.networks) :
    (run (Cloud.respond sched') st' (resolveNetworkID network)).result = .ok id := by
  unfold resolveNetworkID at h ⊢
  split_ifs at h ⊢
  · simp only [Network.networkIDFromName, Prog.ask, run_call, run_pure] at h ⊢
    rw [Cloud.respond_of_fault_none st' (hreliable st'.2)]
    unfold Cloud.respond at h
    split at h
    · cases h
    · simpa [Cloud.answer, Cloud.atCall, Cloud.foldl_drift_networks, hnetworks] using h
  · exact h

theorem podNetworkIDsFrom_ok_again {sched sched' : Nat → Turn} (hreliable : Reliable sched')
    {networks : List OpenStackNetwork} :
    ∀ {networkIDs : List String} {st st' : Cloud × Nat} {ids : List String},
      (run (Cloud.respond sched) st (podNetworkIDsFrom networkIDs networks)).result = .ok ids →
      st'.1.networks = st.1.networks →
      (run (Cloud.respond sched') st' (podNetworkIDsFrom networkIDs networks)).result = .ok ids := by
  induction networks with
  | nil => intro networkIDs st st' ids h _; simpa [podNetworkIDsFrom] using h
  | cons network networks ih =>
    intro networkIDs st st' ids h hnetworks
    simp only [podNetworkIDsFrom] at h ⊢
    split_ifs at h ⊢
    · simp only [bind_eq, run_bind_result] at h ⊢
      cases hr : (run (Cloud.respond sched) st (resolveNetworkID network)).result with
      | error e => simp [hr] at h
      | ok id =>
        rw [resolveNetworkID_ok_again hr hreliable hnetworks]
        simp only [hr] at h
        exact ih h (by rw [Cloud.run_networks, Cloud.run_networks, hnetworks])
    · exact ih h hnetworks

/-- The pod network ids, once resolved, are resolved again by a provider without failures. -/
theorem podNetworkIDs_ok_again {sched sched' : Nat → Turn} {st st' : Cloud × Nat}
    {ids : List String} (h : (run (Cloud.respond sched) st (podNetworkIDs spec)).result = .ok ids)
    (hreliable : Reliable sched') (hnetworks : st'.1.networks = st.1.networks) :
    (run (Cloud.respond sched') st' (podNetworkIDs spec)).result = .ok ids := by
  unfold podNetworkIDs at h ⊢
  split_ifs at h ⊢
  · exact h
  · exact podNetworkIDsFrom_ok_again hreliable h hnetworks

/-! ## The pod-network ports of one server -/

section Ports

variable (serverID : String) (networkIDs : List String)

/-- The ports of server `serverID` on the pod networks, as `computePodNetworkIDs` selects them. -/
def Cloud.podNetworkPorts (s : Cloud) : List Port :=
  (s.ports.filter (·.deviceID == serverID)).filter fun port => networkIDs.contains port.networkID

/-- Server `serverID` exists. -/
def Cloud.Holds (s : Cloud) : Prop := ∃ server ∈ s.servers, server.id = serverID

/-- The port with the pod network allowed, as `UpdatePort` sets it, when its id is in `done`. -/
def allowedOn (cidr : String) (done : List String) (port : Port) : Port :=
  if port.id ∈ done then { port with allowedAddressPairs := [⟨cidr⟩] } else port

@[simp] theorem allowedOn_nil (cidr : String) : allowedOn cidr [] = id :=
  funext fun port => by simp [allowedOn]

/-- While server `serverID` exists, its pod-network ports are the ports `selected` for the patch,
with the pod network allowed on those whose id is in `done`. -/
def PatchInv (cidr : String) (selected : List Port) (done : List String) (s : Cloud) : Prop :=
  s.Holds serverID → s.podNetworkPorts serverID networkIDs = selected.map (allowedOn cidr done)

/-- Finishing the deletion of another server leaves the ports of `serverID` alone. -/
theorem filter_deviceID_purge {pid : String} (hpid : pid ≠ serverID) (hserver : serverID ≠ "")
    (ports : List Port) :
    (ports.filterMap fun p => if p.deviceID = pid then
        (if p.preserveOnDelete then some { p with deviceID := "" } else none) else some p).filter
      (·.deviceID == serverID) = ports.filter (·.deviceID == serverID) := by
  induction ports with
  | nil => rfl
  | cons p ports ih =>
    by_cases hp : p.deviceID = pid
    · have hne : p.deviceID ≠ serverID := hp ▸ hpid
      by_cases hpres : p.preserveOnDelete = true <;>
        simp [List.filterMap_cons, hp, hpres, ih, hne, Ne.symm hserver, hpid]
    · simp only [List.filterMap_cons, hp, if_false, List.filter_cons, ih]

variable {serverID networkIDs}

theorem PatchInv.drift {cidr : String} {selected : List Port} {done : List String} {s : Cloud}
    (hserver : serverID ≠ "") (h : PatchInv serverID networkIDs cidr selected done s) (d : Drift) :
    PatchInv serverID networkIDs cidr selected done (s.drift d) := by
  intro hholds
  obtain ⟨server, hmem, hid⟩ := hholds
  cases d with
  | setStatus id status =>
    simp only [Cloud.drift, List.mem_map] at hmem
    obtain ⟨old, hold, rfl⟩ := hmem
    exact h ⟨old, hold, by split at hid <;> exact hid⟩
  | purge pid =>
    simp only [Cloud.drift, List.mem_filter, bne_iff_ne, ne_eq] at hmem
    have hpid : pid ≠ serverID := fun h => hmem.2 (hid.trans h.symm)
    have hports := h ⟨server, hmem.1, hid⟩
    simp only [Cloud.podNetworkPorts, Cloud.drift] at hports ⊢
    rw [filter_deviceID_purge serverID hpid hserver, hports]

theorem PatchInv.foldl_drift {cidr : String} {selected : List Port} {done : List String}
    (hserver : serverID ≠ "") (ds : List Drift) {s : Cloud}
    (h : PatchInv serverID networkIDs cidr selected done s) :
    PatchInv serverID networkIDs cidr selected done (ds.foldl Cloud.drift s) := by
  induction ds generalizing s with
  | nil => exact h
  | cons d ds ih => exact ih (h.drift hserver d)

/-- An accepted `UpdatePort` allowing the pod network adds its port to those patched. -/
theorem PatchInv.updatePort {cidr : String} {selected : List Port} {done : List String} {s : Cloud}
    {fresh : Nat} {id : String} (h : PatchInv serverID networkIDs cidr selected done s)
    (hok : (s.answer fresh (.updatePort id ⟨[⟨cidr⟩]⟩)).1 = .ok ()) :
    PatchInv serverID networkIDs cidr selected (done ++ [id])
      (s.answer fresh (.updatePort id ⟨[⟨cidr⟩]⟩)).2 := by
  simp only [Cloud.answer] at hok ⊢
  by_cases hexists : (s.ports.any fun p => p.id == id) = true
  · simp only [hexists, if_true] at hok ⊢
    intro hholds
    have hports := h hholds
    have hkeep : ∀ f : Port → Bool, (∀ p : Port, f { p with allowedAddressPairs := [⟨cidr⟩] } = f p) →
        (f ∘ fun p : Port => if p.id = id then { p with allowedAddressPairs := [⟨cidr⟩] } else p) = f := by
      intro f hf
      funext p
      simp only [Function.comp_apply]
      split <;> simp [hf]
    simp only [Cloud.podNetworkPorts, List.filter_map] at hports ⊢
    rw [hkeep (fun port => port.deviceID == serverID) fun _ => rfl,
      hkeep (fun port => networkIDs.contains port.networkID) fun _ => rfl, hports, List.map_map]
    refine List.map_congr_left fun q _ => ?_
    simp only [Function.comp_apply, allowedOn, List.mem_append, List.mem_singleton]
    split_ifs <;> simp_all
  · simp [hexists] at hok

theorem PatchInv.respond_updatePort {sched : Nat → Turn} {st : Cloud × Nat} {cidr : String}
    {selected : List Port} {done : List String} {id : String} (hserver : serverID ≠ "")
    (h : PatchInv serverID networkIDs cidr selected done st.1)
    (hok : (Cloud.respond sched st (.updatePort id ⟨[⟨cidr⟩]⟩)).1 = .ok ()) :
    PatchInv serverID networkIDs cidr selected (done ++ [id])
      (Cloud.respond sched st (.updatePort id ⟨[⟨cidr⟩]⟩)).2.1 := by
  cases hfault : (sched st.2).fault with
  | some msg => simp [Cloud.respond, hfault] at hok
  | none =>
    rw [Cloud.respond_of_fault_none st hfault] at hok ⊢
    exact (h.foldl_drift hserver _).updatePort hok

/-- The loop of `patchServerPortsForPodNetwork`, when every update is accepted, adds each port it
updates to those patched. -/
theorem updatePortsFrom_patchInv (hserver : serverID ≠ "") {sched : Nat → Turn}
    {selected : List Port} (ports : List Port) :
    ∀ {done : List String} {st : Cloud × Nat},
      PatchInv serverID networkIDs spec.podNetworkCidr selected done st.1 →
      (run (Cloud.respond sched) st (updatePortsFrom spec ports)).result = .ok () →
      PatchInv serverID networkIDs spec.podNetworkCidr selected (done ++ ports.map Port.id)
        (run (Cloud.respond sched) st (updatePortsFrom spec ports)).state.1 := by
  induction ports with
  | nil => intro done st hinv _; simpa [updatePortsFrom] using hinv
  | cons port ports ih =>
    intro done st hinv hok
    simp only [updatePortsFrom, bind_eq, Network.updatePort, Prog.ask, call_bind, pure_bind,
      run_call] at hok ⊢
    cases hr : (Cloud.respond sched st (.updatePort port.id ⟨[⟨spec.podNetworkCidr⟩]⟩)).1 with
    | error e => simp [hr] at hok
    | ok u =>
      simp only [hr] at hok ⊢
      simpa using ih (hinv.respond_updatePort hserver hr) hok

end Ports

variable {serverID : String}

/-- `computePodNetworkIDs` on the provider: the pod-network ports of the server when the port
listing is answered, and the provider's records are those of that moment. -/
theorem computePodNetworkIDs_ok {sched : Nat → Turn} {st : Cloud × Nat} {selected : List Port}
    (hserver : serverID ≠ "")
    (h : (run (Cloud.respond sched) st (computePodNetworkIDs spec serverID)).result = .ok selected) :
    ∃ networkIDs, (run (Cloud.respond sched) st (podNetworkIDs spec)).result = .ok networkIDs ∧
      selected ≠ [] ∧
      (run (Cloud.respond sched) st (computePodNetworkIDs spec serverID)).state.1.podNetworkPorts
        serverID networkIDs = selected := by
  simp only [computePodNetworkIDs, bind_eq, run_bind_result, run_bind_state] at h ⊢
  cases hN : (run (Cloud.respond sched) st (podNetworkIDs spec)).result with
  | error e => simp [hN] at h
  | ok ids =>
    refine ⟨ids, rfl, ?_⟩
    simp only [hN, Network.listPorts, Prog.ask, call_bind, pure_bind, run_call] at h ⊢
    generalize (run (Cloud.respond sched) st (podNetworkIDs spec)).state = st₁ at h ⊢
    cases hfault : (sched st₁.2).fault with
    | some msg => simp [Cloud.respond, hfault] at h
    | none =>
      rw [Cloud.respond_of_fault_none st₁ hfault] at h ⊢
      simp only [Cloud.answer, hserver, if_false] at h ⊢
      split_ifs at h with hempty hcand
      · simp at h
      · simp at h
      · rw [if_neg hempty, if_neg hcand]
        simp only [run_pure, pure_eq, Except.ok.injEq] at h ⊢
        subst h
        exact ⟨by simpa using hcand, rfl⟩

/-- After an accepted patch, while the server exists, the pod network is allowed on each of its
pod-network ports, and there is at least one. -/
theorem patchServerPortsForPodNetwork_ok {sched : Nat → Turn} {st : Cloud × Nat}
    (hserver : serverID ≠ "")
    (h : (run (Cloud.respond sched) st (patchServerPortsForPodNetwork spec serverID)).result = .ok ()) :
    ∃ networkIDs selected,
      (run (Cloud.respond sched) st (podNetworkIDs spec)).result = .ok networkIDs ∧ selected ≠ [] ∧
      PatchInv serverID networkIDs spec.podNetworkCidr selected (selected.map Port.id)
        (run (Cloud.respond sched) st (patchServerPortsForPodNetwork spec serverID)).state.1 := by
  simp only [patchServerPortsForPodNetwork, bind_eq, run_bind_result, run_bind_state] at h ⊢
  cases hsel : (run (Cloud.respond sched) st (computePodNetworkIDs spec serverID)).result with
  | error e => simp [hsel] at h
  | ok selected =>
    obtain ⟨ids, hids, hne, hports⟩ := computePodNetworkIDs_ok spec hserver hsel
    simp only [hsel] at h ⊢
    have hinv : PatchInv serverID ids spec.podNetworkCidr selected []
        (run (Cloud.respond sched) st (computePodNetworkIDs spec serverID)).state.1 :=
      fun _ => by simp [hports]
    exact ⟨ids, selected, hids, hne, by simpa using updatePortsFrom_patchInv spec hserver selected hinv h⟩

/-- On a steady provider with records `t`, `computePodNetworkIDs` selects the server's pod-network
ports of `t`, when it has some. -/
theorem computePodNetworkIDs_steady {sched : Nat → Turn} (hsteady : Steady sched) {t : Cloud}
    {n : Nat} {networkIDs : List String} (hserver : serverID ≠ "")
    (hids : (run (Cloud.respond sched) (t, n) (podNetworkIDs spec)).result = .ok networkIDs)
    (hne : t.podNetworkPorts serverID networkIDs ≠ []) :
    (run (Cloud.respond sched) (t, n) (computePodNetworkIDs spec serverID)).result =
      .ok (t.podNetworkPorts serverID networkIDs) := by
  have hstate : (run (Cloud.respond sched) (t, n) (podNetworkIDs spec)).state.1 = t :=
    Cloud.run_state_of_steady (podNetworkIDs_readOnly spec) hsteady _
  simp only [computePodNetworkIDs, bind_eq, run_bind_result, hids, Network.listPorts, Prog.ask,
    call_bind, pure_bind, run_call]
  generalize (run (Cloud.respond sched) (t, n) (podNetworkIDs spec)).state = st₁ at hstate ⊢
  have hat : Cloud.atCall sched st₁ = t := by simp [Cloud.atCall, (hsteady _).1, hstate]
  rw [Cloud.respond_of_fault_none st₁ (hsteady _).2]
  have hlisted : t.ports.filter (·.deviceID == serverID) ≠ [] := fun h => hne (by
    simp only [Cloud.podNetworkPorts, h, List.filter_nil])
  simp only [hat, Cloud.answer, hserver, if_false]
  rw [if_neg (by rwa [List.isEmpty_iff]), if_neg (by rwa [List.isEmpty_iff])]
  rfl

/-- Against a steady provider whose records hold the patched ports, the check of
`verifyServerPortsForPodNetwork` passes. -/
theorem verifyServerPortsForPodNetwork_ok {sched : Nat → Turn} (hsteady : Steady sched)
    {t : Cloud} {n : Nat} {networkIDs : List String} {selected : List Port}
    (hserver : serverID ≠ "")
    (hids : (run (Cloud.respond sched) (t, n) (podNetworkIDs spec)).result = .ok networkIDs)
    (hne : selected ≠ [])
    (hports : t.podNetworkPorts serverID networkIDs =
      selected.map (allowedOn spec.podNetworkCidr (selected.map Port.id))) :
    (run (Cloud.respond sched) (t, n) (verifyServerPortsForPodNetwork spec serverID)).result =
      .ok () := by
  have hsel := computePodNetworkIDs_steady spec hsteady hserver hids (by simpa [hports] using hne)
  simp only [verifyServerPortsForPodNetwork, bind_eq, run_bind_result, hsel, hports]
  rw [List.find?_eq_none.mpr]
  · rfl
  · intro port hport
    obtain ⟨q, hq, rfl⟩ := List.mem_map.mp hport
    simp [allowsPodNetwork, allowedOn, List.mem_map_of_mem Port.id hq]

section Accepted

variable {σ : Type} (answer : σ → (c : Call) → Except ClientError c.Result × σ) (pre : Prefixes)

/-- An accepted `CreateMachine` submitted a server, patched its ports in a run that ends where
`CreateMachine` ends, and returned the server's encoded identifier. -/
theorem createMachine_ok {s : σ} {machineName : String} {userData : List UInt8} {p : String}
    (h : (run answer s (createMachine pre spec machineName userData)).result = .ok p) :
    ∃ created s₃, ((∃ opts, (⟨.createServer opts, .ok created⟩ : Event) ∈
          (run answer s (createMachine pre spec machineName userData)).trace) ∨
        ∃ opts, (⟨.bootFromVolume opts, .ok created⟩ : Event) ∈
          (run answer s (createMachine pre spec machineName userData)).trace) ∧
      (run answer s₃ (patchServerPortsForPodNetwork spec created.id)).result = .ok () ∧
      (run answer s₃ (patchServerPortsForPodNetwork spec created.id)).state =
        (run answer s (createMachine pre spec machineName userData)).state ∧
      p = encodeProviderID spec.region created.id := by
  simp only [createMachine, bind_eq, map_eq, run_bind_result, run_bind_state, run_bind_trace,
    List.mem_append] at h ⊢
  cases hr₁ : (run answer s (computeServerNetworks spec machineName)).result with
  | error err => simp [hr₁] at h
  | ok nws =>
    simp only [hr₁, run_bind_result, run_bind_state, run_bind_trace, List.mem_append] at h ⊢
    cases hr₂ : (run answer (run answer s (computeServerNetworks spec machineName)).state
      (deployServer spec machineName userData nws)).result with
    | error err => simp [hr₂] at h
    | ok created =>
      simp only [hr₂, run_bind_result, run_bind_state, run_bind_trace, List.mem_append] at h ⊢
      generalize (run answer (run answer s (computeServerNetworks spec machineName)).state
        (deployServer spec machineName userData nws)).state = s₂ at h ⊢
      cases hw : (run answer s₂ (waitForStatus created.id [serverStatusBuild]
        [serverStatusActive] 600)).result with
      | error err => simp [hw] at h
      | ok u =>
        simp only [hw, run_bind_result, run_bind_state] at h ⊢
        generalize (run answer s₂ (waitForStatus created.id [serverStatusBuild]
          [serverStatusActive] 600)).state = s₃ at h ⊢
        cases hp : (run answer s₃ (patchServerPortsForPodNetwork spec created.id)).result with
        | error err => simp [hp] at h
        | ok u' =>
          simp only [hp, pure_eq, run_pure, Except.ok.injEq] at h ⊢
          obtain ⟨-, hacc, -⟩ := deployServer_trace answer spec
            (run answer s (computeServerNetworks spec machineName)).state machineName userData nws
          rw [hr₂] at hacc
          exact ⟨created, s₃, (mem_acceptedServers (hacc ▸ List.mem_singleton_self created)).imp
            (fun ⟨o, he⟩ => ⟨o, .inr (.inl he)⟩) (fun ⟨o, he⟩ => ⟨o, .inr (.inl he)⟩), hp, rfl,
            h.symm⟩

end Accepted

variable (pre : Prefixes)

/-- **Create and status agree.** Let both tag names be found (a key naming the role must not also
name the cluster). If `CreateMachine` returns `p` and the provider then lists a server with that
identifier, the requested name and the requested metadata, and no other record of that name has
both tag names, then `GetMachineStatus`, run next against a provider that neither fails nor
changes on its own, and visiting the tags in any order, returns `p`. -/
theorem createMachine_then_getMachineStatus (sched₁ sched₂ : Nat → Turn) (s : Cloud)
    (machineName : String) (userData : List UInt8) (tags₂ : GoMap) (p : String)
    (hfound : (searchTags pre spec.tags.entries).found = true)
    (hperm : tags₂.entries.Perm spec.tags.entries)
    (hcreate : (Cloud.run sched₁ s (createMachine pre spec machineName userData)).result = .ok p)
    (hlisted : ∃ server ∈ (Cloud.run sched₁ s (createMachine pre spec machineName userData)).state.1.servers,
      encodeProviderID spec.region server.id = p ∧ server.name = machineName ∧
        server.metadata = spec.tags.entries)
    (hunique : (matchingServers machineName (searchTags pre tags₂.entries)
      (Cloud.run sched₁ s (createMachine pre spec machineName userData)).state.1.servers).length ≤ 1)
    (hsteady : Steady sched₂) :
    (Cloud.run sched₂ (Cloud.run sched₁ s (createMachine pre spec machineName userData)).state.1
      (getMachineStatus pre { spec with tags := tags₂ } machineName)).result = .ok p := by
  unfold Cloud.run at hcreate hlisted hunique ⊢
  obtain ⟨created, s₃, hev, hpatch, hstate, rfl⟩ :=
    createMachine_ok spec (Cloud.respond sched₁) pre hcreate
  have hid_ne : created.id ≠ "" := by
    rcases hev with ⟨o, he⟩ | ⟨o, he⟩ <;> obtain ⟨st', hst'⟩ := Prog.mem_trace_answered _ _ _ he
    exacts [(Cloud.respond_boot_id_ne (.inl hst')).1, (Cloud.respond_boot_id_ne (.inr hst')).1]
  obtain ⟨N, selected, hN, hne, hinv⟩ := patchServerPortsForPodNetwork_ok spec hid_ne hpatch
  have hnetworks := Cloud.run_networks sched₁ s₃ (patchServerPortsForPodNetwork spec created.id)
  rw [← hstate] at hlisted hunique ⊢
  generalize (run (Cloud.respond sched₁) s₃ (patchServerPortsForPodNetwork spec created.id)).state =
    final at hinv hnetworks hlisted hunique ⊢
  obtain ⟨server, hmem, hid, hname, hmeta⟩ := hlisted
  have hsid : server.id = created.id := encodeProviderID_injective _ hid
  have hfound₂ : (searchTags pre tags₂.entries).found = true :=
    (searchTags_found_perm pre hperm).trans hfound
  have hkeys : (searchTags pre tags₂.entries).matches server.metadata = true :=
    searchTags_matches pre hfound₂ fun _ hkey =>
      hasKey_of_mem (hmeta ▸ (hperm.map Prod.fst).subset hkey)
  have hlist := Cloud.respond_of_fault_none (final.1, 0) (hsteady 0).2 (.listServers ⟨machineName⟩)
  have hat : ∀ n, Cloud.atCall sched₂ (final.1, n) = final.1 := fun n => by
    simp [Cloud.atCall, (hsteady n).1]
  have hN₂ : (run (Cloud.respond sched₂) (final.1, 1) (podNetworkIDs spec)).result = .ok N :=
    podNetworkIDs_ok_again spec hN (fun i => (hsteady i).2) hnetworks
  simp only [getMachineStatus, bind_eq, run_bind_result, run_bind_state,
    getMachineByName_run_found (Cloud.respond sched₂) pre { spec with tags := tags₂ } _ machineName
      hfound₂, hlist, hat, Cloud.answer, matchingServers_filter_eq_singleton hmem hname hkeys hunique]
  rw [hsid, verifyServerPortsForPodNetwork_ok { spec with tags := tags₂ } hsteady hid_ne hN₂ hne
    (hinv ⟨server, hmem, hsid⟩)]
  rfl

/-- **`GetMachineStatus` and `ListMachines` are read-only** (spec §4.5): whatever the clients
answer, neither makes a call that creates, updates or deletes anything, so a provider that
neither fails nor changes on its own keeps its records through either. -/
theorem getMachineStatus_listMachines_readOnly (machineName : String) :
    (getMachineStatus pre spec machineName).Uses ReadOnly ∧ (listMachines pre spec).Uses ReadOnly ∧
    ∀ sched, Steady sched → ∀ s,
      (Cloud.run sched s (getMachineStatus pre spec machineName)).state.1 = s ∧
      (Cloud.run sched s (listMachines pre spec)).state.1 = s :=
  ⟨getMachineStatus_readOnly pre spec machineName, listMachines_readOnly pre spec,
    fun _ hsteady s => ⟨Cloud.run_state_of_steady (getMachineStatus_readOnly pre spec machineName)
      hsteady (s, 0), Cloud.run_state_of_steady (listMachines_readOnly pre spec) hsteady (s, 0)⟩⟩

/-- The status and the enumeration of the near-miss servers leave them as they are. -/
theorem getMachineStatus_listMachines_near_miss :
    (Cloud.run quiet (sampleCloud nearMissServers)
        (getMachineStatus samplePrefixes (sampleSpec sampleTags none) "m")).state.1 =
      sampleCloud nearMissServers ∧
    (Cloud.run quiet (sampleCloud nearMissServers)
        (listMachines samplePrefixes (sampleSpec sampleTags none))).state.1 =
      sampleCloud nearMissServers :=
  (getMachineStatus_listMachines_readOnly (sampleSpec sampleTags none) samplePrefixes "m").2.2 quiet
    (fun _ => ⟨rfl, rfl⟩) (sampleCloud nearMissServers)

/-- A successful `GetMachineStatus` located its server by name and returns the server's encoded
identifier. -/
theorem getMachineStatus_ok {σ : Type} {answer : σ → (c : Call) → Except ClientError c.Result × σ}
    {s : σ} {machineName p : String}
    (h : (run answer s (getMachineStatus pre spec machineName)).result = .ok p) :
    ∃ server, (run answer s (getMachineByName pre spec machineName)).result = .ok server ∧
      p = encodeProviderID spec.region server.id := by
  simp only [getMachineStatus, bind_eq, run_bind_result] at h
  cases hr : (run answer s (getMachineByName pre spec machineName)).result with
  | error err => simp [hr] at h
  | ok server =>
    simp only [hr, run_bind_result] at h
    refine ⟨server, rfl, ?_⟩
    split at h <;> simp_all

/-- With unique server identifiers, the map of `listedMachines` reads, under an owned server's
encoded identifier, that server's name. -/
theorem lookup_listedMachines_of_nodup {region : String} {keys : TagKeys} {servers : List Server}
    {server : Server} (hnodup : (servers.map (·.id)).Nodup) (hmem : server ∈ servers)
    (howned : keys.matches server.metadata = true) :
    (listedMachines region keys .empty servers).entries.lookup
      (encodeProviderID region server.id) = some server.name := by
  rw [lookup_listedMachines]
  have hown : server ∈ (servers.filter fun server => keys.matches server.metadata).reverse := by
    simp [hmem, howned]
  cases hfind : (servers.filter fun server => keys.matches server.metadata).reverse.find?
      fun other => encodeProviderID region other.id == encodeProviderID region server.id with
  | none => simpa using List.find?_eq_none.mp hfind server hown
  | some other =>
    have hother := List.mem_of_find?_eq_some hfind
    simp only [List.mem_reverse, List.mem_filter] at hother
    have hid : other.id = server.id :=
      encodeProviderID_injective region (by simpa using List.find?_some hfind)
    simp [List.inj_on_of_nodup_map hnodup hother.1 hmem hid]

/-- **Status and enumeration agree.** With at most one ownership key of each kind configured,
on a provider whose server identifiers are unique, if `GetMachineStatus` returns `p` for a
machine, whatever the provider did during that call, then `ListMachines`, run from the same
records against a provider that neither fails nor changes on its own, and enumerating `Tags` in
its own order, maps `p` to the machine's name. -/
theorem getMachineStatus_listMachines_agree (sched₁ sched₂ : Nat → Turn) (s : Cloud)
    (tags₂ : GoMap) (machineName p : String) (huniq : UniqueOwnershipKeys pre spec.tags)
    (hperm : tags₂.entries.Perm spec.tags.entries) (hnodup : (s.servers.map (·.id)).Nodup)
    (hsteady : Steady sched₂)
    (hstatus : (Cloud.run sched₁ s (getMachineStatus pre spec machineName)).result = .ok p) :
    ∃ machines, (Cloud.run sched₂ s (listMachines pre { spec with tags := tags₂ })).result =
        .ok machines ∧ machines.entries.lookup p = some machineName := by
  have hsame : listMachines pre { spec with tags := tags₂ } = listMachines pre spec := by
    simp only [listMachines, searchTags_perm pre hperm huniq.1 huniq.2]
  rw [hsame]
  unfold Cloud.run at hstatus ⊢
  obtain ⟨server, hlocated, rfl⟩ := getMachineStatus_ok spec pre hstatus
  obtain ⟨hfound, listed, hans, hM, -⟩ := getMachineByName_ok _ pre spec hlocated
  have hsel : server ∈ matchingServers machineName (searchTags pre spec.tags.entries) listed := by
    simp [hM]
  simp only [matchingServers, List.mem_filter, Bool.and_eq_true, beq_iff_eq] at hsel
  obtain ⟨hlisted, rfl, howned⟩ := hsel
  rw [Cloud.respond_listServers_ok hans, List.mem_filter] at hlisted
  obtain ⟨old, hold, hidentity⟩ := (Cloud.foldl_drift_descends s _).exists_identity hlisted.1
  simp only [Cloud.identity, Prod.mk.injEq] at hidentity
  obtain ⟨hid, hname, hmeta⟩ := hidentity
  have hat : Cloud.atCall sched₂ (s, 0) = s := by simp [Cloud.atCall, (hsteady 0).1]
  simp only [listMachines, hfound, Bool.not_true, Bool.false_eq_true, if_false, bind_eq,
    Compute.listServers, Prog.ask, call_bind, Prog.pure_bind, run_call,
    Cloud.respond_of_fault_none (s, 0) (hsteady 0).2, hat, Cloud.answer]
  refine ⟨_, rfl, ?_⟩
  rw [← hid, ← hname]
  exact lookup_listedMachines_of_nodup (((List.filter_sublist _).map _).nodup hnodup)
    (List.mem_filter.mpr ⟨hold, by simp [stringsContains]⟩) (hmeta ▸ howned)

/-- A provider with server `server-0`, named `m`, carrying the sample tags, whose port on `net`
allows the pod network. -/
def statusCloud : Cloud :=
  { sampleCloud [sampleServer "server-0" "m" serverStatusActive sampleTags.entries] with
    ports := [⟨"port-a", "", "net", "server-0", [], [⟨"100.96.0.0/11"⟩], [], false⟩] }

/-- The status of `m` on `statusCloud` is `server-0`'s identifier, and the enumeration, visiting the
tags backwards, lists `m` under it. -/
theorem getMachineStatus_listMachines_sample :
    ∃ machines, (Cloud.run quiet statusCloud (listMachines samplePrefixes
        { sampleSpec sampleTags none with tags := ⟨sampleTags.entries.reverse, by decide⟩ })).result =
        .ok machines ∧
      machines.entries.lookup "openstack:///region/server-0" = some "m" :=
  getMachineStatus_listMachines_agree (sampleSpec sampleTags none) samplePrefixes quiet quiet
    statusCloud ⟨sampleTags.entries.reverse, by decide⟩ "m" "openstack:///region/server-0"
    ⟨by decide, by decide⟩ (by decide) (by decide) (fun _ => ⟨rfl, rfl⟩) (by decide)

/-- Machine `m` with the sample tags is created as `server-2` and then found by its status, the
tags visited backwards. -/
theorem createMachine_then_getMachineStatus_sample :
    (Cloud.run quiet (Cloud.run (activeAt "server-2" 3) (sampleCloud [])
        (createMachine samplePrefixes (sampleSpec sampleTags none) "m" [])).state.1
      (getMachineStatus samplePrefixes
        { sampleSpec sampleTags none with tags := ⟨sampleTags.entries.reverse, by decide⟩ }
        "m")).result = .ok "openstack:///region/server-2" :=
  createMachine_then_getMachineStatus (sampleSpec sampleTags none) samplePrefixes
    (activeAt "server-2" 3) quiet (sampleCloud []) "m" [] ⟨sampleTags.entries.reverse, by decide⟩ _
    (by decide) (by decide) (by decide)
    ⟨sampleServer "server-2" "m" "ACTIVE" sampleTags.entries, by decide, by decide⟩ (by decide)
    fun _ => ⟨rfl, rfl⟩

/-- Tags with a cluster key and a role key, where the role key also names the cluster. -/
def prefixTags : GoMap := ⟨[("cluster-a", "1"), ("cluster-role-node", "1")], by decide⟩

/-- With `prefixTags` every key names the cluster, so the tag loop finds no role tag.
`CreateMachine` does not look at the tag names and returns the identifier of `server-2`, the only
server, listed with the requested name and metadata; `GetMachineStatus`, run next against a provider
that neither fails nor changes, reports the tags missing. -/
theorem createMachine_then_getMachineStatus_tags_missing :
    (prefixTags.entries.any fun e => stringsContains e.1 samplePrefixes.cluster) = true ∧
    (prefixTags.entries.any fun e => stringsContains e.1 samplePrefixes.role) = true ∧
    (Cloud.run (activeAt "server-2" 3) (sampleCloud [])
        (createMachine samplePrefixes (sampleSpec prefixTags none) "m" [])).result =
      .ok "openstack:///region/server-2" ∧
    (Cloud.run (activeAt "server-2" 3) (sampleCloud [])
        (createMachine samplePrefixes (sampleSpec prefixTags none) "m" [])).state.1.servers =
      [sampleServer "server-2" "m" "ACTIVE" prefixTags.entries] ∧
    Steady quiet ∧
    (Cloud.run quiet (Cloud.run (activeAt "server-2" 3) (sampleCloud [])
        (createMachine samplePrefixes (sampleSpec prefixTags none) "m" [])).state.1
      (getMachineStatus samplePrefixes (sampleSpec prefixTags none) "m")).result =
      .error (.text ("getMachineByName operation can not proceed: cluster/role tags are " ++
        "missing for machine [Name=\"m\"]")) :=
  ⟨by decide, by decide, by decide, by decide, fun _ => ⟨rfl, rfl⟩, by decide⟩

end OpenStackExecutor
