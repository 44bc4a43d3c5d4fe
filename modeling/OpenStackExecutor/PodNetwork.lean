import OpenStackExecutor.Provisioning

/-!
# The pod-network ports, for every answer of the Network client

`computePodNetworkIDs` selects the ports of a server that lie on a pod network: the ports the
`ListPorts` call returned for the server, kept when their network is the configured `NetworkID`
or one of the resolved networks flagged as pod networks. `patchServerPortsForPodNetwork` allows
the pod network CIDR on the selected ports one after another and stops at the first refused
update, and `verifyServerPortsForPodNetwork` accepts exactly when every selected port allows the
CIDR, and otherwise names the first that does not. Each result holds whatever the client answers.
-/

namespace OpenStackExecutor

open Prog

variable {σ : Type} (answer : σ → (c : Call) → Except ClientError c.Result × σ)
  (spec : MachineProviderConfigSpec)

/-! ## Selection -/

/-- The loop over the networks keeps the ids it started from and adds, in order, one resolved id
for each network flagged as a pod network; the lookups that resolve them are all its calls. -/
theorem podNetworkIDsFrom_resolves {s : σ} {networkIDs ids : List String}
    {networks : List OpenStackNetwork}
    (h : (run answer s (podNetworkIDsFrom networkIDs networks)).result = .ok ids) :
    ∃ resolved, List.Forall₂ KeepsOwnID (networks.filter (·.podNetwork)) resolved ∧
      (run answer s (podNetworkIDsFrom networkIDs networks)).trace =
        resolutionCalls (networks.filter (·.podNetwork)) resolved ∧
      ∀ id, id ∈ ids ↔ id ∈ networkIDs ∨ id ∈ resolved := by
  induction networks generalizing s networkIDs with
  | nil =>
    simp only [podNetworkIDsFrom, pure_eq, run_pure, Except.ok.injEq] at h
    exact ⟨[], .nil, rfl, by simp [h]⟩
  | cons network networks ih =>
    by_cases hpod : network.podNetwork = true
    · simp only [podNetworkIDsFrom, hpod, if_true, bind_eq, run_bind_result, run_bind_trace,
        List.filter_cons] at h ⊢
      cases hr : (run answer s (resolveNetworkID network)).result with
      | error err => simp [hr] at h
      | ok id =>
        simp only [hr] at h ⊢
        obtain ⟨hown, hcall⟩ := resolveNetworkID_ok answer hr
        obtain ⟨resolved, hall, htrace, hmem⟩ := ih h
        refine ⟨id :: resolved, .cons hown hall, by rw [hcall, htrace]; rfl, fun id' => ?_⟩
        simp only [hmem, List.mem_insert_iff, List.mem_cons]
        tauto
    · simp only [podNetworkIDsFrom, hpod, if_false, List.filter_cons] at h ⊢
      exact ih h

/-- The pod network ids are the configured `NetworkID`, found without a call, or else one
resolved id per network flagged as a pod network, by exactly the lookups of the run. -/
theorem podNetworkIDs_resolves {s : σ} {ids : List String}
    (h : (run answer s (podNetworkIDs spec)).result = .ok ids) :
    ∃ resolved, (if spec.networkID ≠ "" then
        resolved = [spec.networkID] ∧ (run answer s (podNetworkIDs spec)).trace = []
      else List.Forall₂ KeepsOwnID (spec.networks.filter (·.podNetwork)) resolved ∧
        (run answer s (podNetworkIDs spec)).trace =
          resolutionCalls (spec.networks.filter (·.podNetwork)) resolved) ∧
      ∀ id, id ∈ ids ↔ id ∈ resolved := by
  unfold podNetworkIDs at h ⊢
  split_ifs at h ⊢
  · simp only [pure_eq, run_pure, Except.ok.injEq] at h
    exact ⟨_, ⟨rfl, rfl⟩, by simp [← h]⟩
  · obtain ⟨resolved, hall, htrace, hmem⟩ := podNetworkIDsFrom_resolves answer h
    exact ⟨resolved, ⟨hall, htrace⟩, by simpa using hmem⟩

/-- **Port selection.** When `computePodNetworkIDs` returns ports, they are the non-empty part of
the ports the `ListPorts` call of the run returned for the server whose network is a pod network
id: the configured `NetworkID`, or else one id per network flagged as a pod network, its own or
the answer to the lookup of its name. Those lookups, in order, and the listing are all the calls
the run makes. -/
theorem computePodNetworkIDs_spec (s : σ) (serverID : String) (ports : List Port)
    (h : (run answer s (computePodNetworkIDs spec serverID)).result = .ok ports) :
    ∃ resolved serverPorts,
      (if spec.networkID ≠ "" then resolved = [spec.networkID] ∧
          (run answer s (computePodNetworkIDs spec serverID)).trace =
            [⟨.listPorts ⟨serverID⟩, .ok serverPorts⟩]
        else List.Forall₂ KeepsOwnID (spec.networks.filter (·.podNetwork)) resolved ∧
          (run answer s (computePodNetworkIDs spec serverID)).trace =
            resolutionCalls (spec.networks.filter (·.podNetwork)) resolved ++
              [⟨.listPorts ⟨serverID⟩, .ok serverPorts⟩]) ∧
      ports = serverPorts.filter (fun port => decide (port.networkID ∈ resolved)) ∧ ports ≠ [] := by
  simp only [computePodNetworkIDs, bind_eq, run_bind_result, run_bind_trace] at h ⊢
  cases hr : (run answer s (podNetworkIDs spec)).result with
  | error err => simp [hr] at h
  | ok networkIDs =>
    obtain ⟨resolved, hres, hmem⟩ := podNetworkIDs_resolves answer spec hr
    simp only [hr, Network.listPorts, Prog.ask, call_bind, Prog.pure_bind, run_call] at h ⊢
    generalize answer (run answer s (podNetworkIDs spec)).state _ = listed at h ⊢
    obtain ⟨_ | serverPorts, s₁⟩ := listed
    · simp at h
    · have hsel : (serverPorts.filter fun port => networkIDs.contains port.networkID) =
          serverPorts.filter fun port => decide (port.networkID ∈ resolved) :=
        List.filter_congr fun port _ => by simp [hmem]
      simp only [hsel] at h ⊢
      split_ifs at h with hempty hnone
      · simp at h
      · simp at h
      · simp only [pure_eq, run_pure, Except.ok.injEq] at h
        simp only [if_neg hempty, if_neg hnone, pure_eq, run_pure]
        refine ⟨resolved, serverPorts, ?_, h.symm, h ▸ by simpa using hnone⟩
        split_ifs at hres ⊢ <;> exact ⟨hres.1, by simp only [hres.2, List.nil_append]⟩

/-! ## Patch -/

/-- A patch that succeeds updated every port it was given, in order, each with the pod network
CIDR as its only allowed address pair, and made no other call. -/
theorem updatePortsFrom_ok {s : σ} {ports : List Port}
    (h : (run answer s (updatePortsFrom spec ports)).result = .ok ()) :
    (run answer s (updatePortsFrom spec ports)).trace =
      ports.map fun port => ⟨.updatePort port.id ⟨[⟨spec.podNetworkCidr⟩]⟩, .ok ()⟩ := by
  induction ports generalizing s with
  | nil => rfl
  | cons port ports ih =>
    simp only [updatePortsFrom, bind_eq, Network.updatePort, Prog.ask, call_bind, Prog.pure_bind,
      run_call] at h ⊢
    generalize answer s _ = r at h ⊢
    obtain ⟨_ | ⟨⟩, s₁⟩ := r
    · simp at h
    · simp only [List.map_cons, ih h]

/-- A patch that fails updated the ports before some port `port`, whose update was refused; it
stopped there, with an error that names the port. -/
theorem updatePortsFrom_error {s : σ} {ports : List Port} {e : Error}
    (h : (run answer s (updatePortsFrom spec ports)).result = .error e) :
    ∃ done port rest err, ports = done ++ port :: rest ∧
      (run answer s (updatePortsFrom spec ports)).trace =
        done.map (fun port => ⟨.updatePort port.id ⟨[⟨spec.podNetworkCidr⟩]⟩, .ok ()⟩) ++
          [⟨.updatePort port.id ⟨[⟨spec.podNetworkCidr⟩]⟩, .error err⟩] ∧
      e = .errorf ("failed to update allowed address pair for port [ID=" ++ quoted port.id ++
        "]: ") (.client err) "" := by
  induction ports generalizing s with
  | nil => cases h
  | cons port ports ih =>
    simp only [updatePortsFrom, bind_eq, Network.updatePort, Prog.ask, call_bind, Prog.pure_bind,
      run_call] at h ⊢
    generalize answer s _ = r at h ⊢
    obtain ⟨err | ⟨⟩, s₁⟩ := r
    · simp only [pure_eq, run_pure, Except.error.injEq] at h
      exact ⟨[], port, ports, err, rfl, rfl, h.symm⟩
    · obtain ⟨done, port', rest, err, rfl, htrace, rfl⟩ := ih h
      exact ⟨port :: done, port', rest, err, rfl, by simp [htrace], rfl⟩

/-- **The patch** (spec §4.2). Once `computePodNetworkIDs` has selected `ports`,
`patchServerPortsForPodNetwork` continues with one `UpdatePort` call per selected port, in order,
each setting the pod network CIDR as the port's only allowed address pair. It succeeds when every
update was accepted; otherwise it stops at the first refused update, with an error naming that
port. -/
theorem patchServerPortsForPodNetwork_spec (s : σ) (serverID : String) (ports : List Port)
    (hsel : (run answer s (computePodNetworkIDs spec serverID)).result = .ok ports) :
    ((run answer s (patchServerPortsForPodNetwork spec serverID)).result = .ok () →
      (run answer s (patchServerPortsForPodNetwork spec serverID)).trace =
        (run answer s (computePodNetworkIDs spec serverID)).trace ++
          ports.map fun port => ⟨.updatePort port.id ⟨[⟨spec.podNetworkCidr⟩]⟩, .ok ()⟩) ∧
    ∀ e, (run answer s (patchServerPortsForPodNetwork spec serverID)).result = .error e →
      ∃ done port rest err, ports = done ++ port :: rest ∧
        (run answer s (patchServerPortsForPodNetwork spec serverID)).trace =
          (run answer s (computePodNetworkIDs spec serverID)).trace ++
            done.map (fun port => ⟨.updatePort port.id ⟨[⟨spec.podNetworkCidr⟩]⟩, .ok ()⟩) ++
              [⟨.updatePort port.id ⟨[⟨spec.podNetworkCidr⟩]⟩, .error err⟩] ∧
        e = .errorf ("failed to update allowed address pair for port [ID=" ++ quoted port.id ++
          "]: ") (.client err) "" := by
  simp only [patchServerPortsForPodNetwork, bind_eq, run_bind_result, run_bind_trace, hsel]
  refine ⟨fun h => by rw [updatePortsFrom_ok answer spec h], fun e h => ?_⟩
  obtain ⟨done, port, rest, err, hports, htrace, he⟩ := updatePortsFrom_error answer spec h
  exact ⟨done, port, rest, err, hports, by rw [htrace, List.append_assoc], he⟩

/-! ## Verification -/

/-- **The check** (spec §4.5). `verifyServerPortsForPodNetwork` makes the calls of
`computePodNetworkIDs` and no other; it succeeds exactly when the selection succeeds and every
selected port has the pod network CIDR among its allowed address pairs, and otherwise, after a
selection, fails naming the first selected port without it. -/
theorem verifyServerPortsForPodNetwork_spec (s : σ) (serverID : String) :
    (run answer s (verifyServerPortsForPodNetwork spec serverID)).trace =
      (run answer s (computePodNetworkIDs spec serverID)).trace ∧
    ((run answer s (verifyServerPortsForPodNetwork spec serverID)).result = .ok () ↔
      ∃ ports, (run answer s (computePodNetworkIDs spec serverID)).result = .ok ports ∧
        ∀ port ∈ ports, allowsPodNetwork spec port = true) ∧
    ∀ done port rest,
      (run answer s (computePodNetworkIDs spec serverID)).result = .ok (done ++ port :: rest) →
      (∀ p ∈ done, allowsPodNetwork spec p = true) → allowsPodNetwork spec port = false →
      (run answer s (verifyServerPortsForPodNetwork spec serverID)).result =
        .error (.text ("port [ID=" ++ quoted port.id ++ "] of server [ID=" ++ quoted serverID ++
          "] is not configured for pod network, but it should")) := by
  simp only [verifyServerPortsForPodNetwork, bind_eq, run_bind_result, run_bind_trace]
  refine ⟨?_, ?_, fun done port rest hsel hdone hport => ?_⟩
  · split <;> (try split) <;> simp
  · cases hsel : (run answer s (computePodNetworkIDs spec serverID)).result with
    | error err => simp
    | ok ports =>
      simp only [Except.ok.injEq, exists_eq_left']
      cases hfind : ports.find? fun port => !allowsPodNetwork spec port with
      | some port =>
        simp only [pure_eq, run_pure, reduceCtorEq, false_iff, not_forall]
        exact ⟨port, List.mem_of_find?_eq_some hfind, by simpa using List.find?_some hfind⟩
      | none => simpa using List.find?_eq_none.mp hfind
  · have hfind : (done ++ port :: rest).find? (fun port => !allowsPodNetwork spec port) = some port := by
      rw [List.find?_append, List.find?_eq_none.mpr (by simpa using hdone)]
      simp [hport]
    simp only [hsel, hfind, pure_eq, run_pure]

/-! ## A sample server with one pod-network port -/

/-- The port of server `server-0` on the sample network `net`. -/
def podPort : Port := ⟨"port-a", "", "net", "server-0", [], [], [], false⟩

/-- A provider whose server `server-0` has a port on `net` and one on another network. -/
def podCloud : Cloud :=
  { sampleCloud [sampleServer "server-0" "m" serverStatusActive []] with
    ports := [podPort, ⟨"port-b", "", "other", "server-0", [], [], [], false⟩] }

/-- On the sample provider the selection is the port on `net`, taken from the ports listed for
`server-0`. -/
theorem computePodNetworkIDs_sample :
    ∃ resolved serverPorts, resolved = ["net"] ∧
      (run (Cloud.respond quiet) (podCloud, 0)
        (computePodNetworkIDs (sampleSpec sampleTags none) "server-0")).trace =
          [⟨.listPorts ⟨"server-0"⟩, .ok serverPorts⟩] ∧
      [podPort] = serverPorts.filter (fun port => decide (port.networkID ∈ resolved)) := by
  obtain ⟨resolved, serverPorts, hres, hports, -⟩ := computePodNetworkIDs_spec
    (Cloud.respond quiet) (sampleSpec sampleTags none) (podCloud, 0) "server-0" [podPort]
    (by decide)
  rw [if_pos (by decide)] at hres
  exact ⟨resolved, serverPorts, hres.1, hres.2, hports⟩

/-- On the sample provider the patch updates the port on `net` alone. -/
theorem patchServerPortsForPodNetwork_sample :
    (run (Cloud.respond quiet) (podCloud, 0)
        (patchServerPortsForPodNetwork (sampleSpec sampleTags none) "server-0")).result = .ok () ∧
      (run (Cloud.respond quiet) (podCloud, 0)
        (patchServerPortsForPodNetwork (sampleSpec sampleTags none) "server-0")).trace =
      (run (Cloud.respond quiet) (podCloud, 0)
        (computePodNetworkIDs (sampleSpec sampleTags none) "server-0")).trace ++
        [⟨.updatePort "port-a" ⟨[⟨"100.96.0.0/11"⟩]⟩, .ok ()⟩] :=
  have h : (run (Cloud.respond quiet) (podCloud, 0)
      (patchServerPortsForPodNetwork (sampleSpec sampleTags none) "server-0")).result = .ok () := by
    decide
  ⟨h, (patchServerPortsForPodNetwork_spec (Cloud.respond quiet) (sampleSpec sampleTags none)
    (podCloud, 0) "server-0" [podPort] (by decide)).1 h⟩

/-- Before the patch, the check fails on the sample provider and names the port on `net`. -/
theorem verifyServerPortsForPodNetwork_unpatched :
    (run (Cloud.respond quiet) (podCloud, 0)
        (verifyServerPortsForPodNetwork (sampleSpec sampleTags none) "server-0")).result =
      .error (.text ("port [ID=" ++ quoted "port-a" ++ "] of server [ID=" ++ quoted "server-0" ++
        "] is not configured for pod network, but it should")) :=
  (verifyServerPortsForPodNetwork_spec (Cloud.respond quiet) (sampleSpec sampleTags none)
    (podCloud, 0) "server-0").2.2 [] podPort [] (by decide) (by simp) (by decide)

end OpenStackExecutor
