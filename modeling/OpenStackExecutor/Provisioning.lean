import OpenStackExecutor.Footprint
import OpenStackExecutor.Cloud.Model

/-!
# The network resolver and the instance provisioner

What `computeServerNetworks` returns, by the three policies of spec §4.1 taken in order, and
what `deployServer` submits, by the layers of spec §4.2, stated for every answer of the clients:
each attachment and each part of the request is tied to the calls of the trace that produced it.
-/

namespace OpenStackExecutor

open Prog

variable {σ : Type} (answer : σ → (c : Call) → Except ClientError c.Result × σ)
  (spec : MachineProviderConfigSpec)

/-- The calls of the security-group loop: one `IDFromName` lookup per name, in order, answered
with the id it resolved. -/
def groupLookups (names ids : List String) : List Event :=
  List.zipWith (fun name id => ⟨.groupIDFromName name, .ok id⟩) names ids

/-- The security-group loop: the ids it returns extend the accumulator by one id per configured
name, and its calls are exactly the lookups that answered them, in order. -/
theorem securityGroupIDsFrom_ok {s : σ} {names securityGroupIDs ids : List String}
    (h : (run answer s (securityGroupIDsFrom securityGroupIDs names)).result = .ok ids) :
    ∃ resolved, ids = securityGroupIDs ++ resolved ∧ resolved.length = names.length ∧
      (run answer s (securityGroupIDsFrom securityGroupIDs names)).trace =
        groupLookups names resolved := by
  induction names generalizing s securityGroupIDs with
  | nil => exact ⟨[], by simpa [securityGroupIDsFrom] using h.symm, rfl, rfl⟩
  | cons name names ih =>
    simp only [securityGroupIDsFrom, bind_eq, Network.groupIDFromName, Prog.ask, call_bind,
      Prog.pure_bind, run_call] at h ⊢
    cases hr : (answer s (.groupIDFromName name)).1 with
    | error err => simp [hr] at h
    | ok id =>
      simp only [hr] at h ⊢
      obtain ⟨resolved, rfl, hlen, htrace⟩ := ih h
      exact ⟨id :: resolved, by simp, by simp [hlen], by rw [htrace]; rfl⟩

/-- A configured network with its own id resolves to that id. -/
def KeepsOwnID (network : OpenStackNetwork) (id : String) : Prop :=
  network.id ≠ "" → id = network.id

/-- The calls that resolve a configured network to `id`: none when it has its own id, and
otherwise the lookup of its name, answered with `id`. -/
def resolutionCall (network : OpenStackNetwork) (id : String) : List Event :=
  if network.id = "" then [⟨.networkIDFromName network.name, .ok id⟩] else []

/-- The calls that resolve the configured networks, in order, to `ids`. -/
def resolutionCalls : List OpenStackNetwork → List String → List Event
  | network :: networks, id :: ids => resolutionCall network id ++ resolutionCalls networks ids
  | _, _ => []

theorem resolveNetworkID_ok {s : σ} {network : OpenStackNetwork} {id : String}
    (h : (run answer s (resolveNetworkID network)).result = .ok id) :
    KeepsOwnID network id ∧
      (run answer s (resolveNetworkID network)).trace = resolutionCall network id := by
  unfold resolveNetworkID at h ⊢
  unfold KeepsOwnID resolutionCall
  split_ifs at h ⊢ with hid
  · simp only [Network.networkIDFromName, Prog.ask, run_call, run_pure] at h ⊢
    exact ⟨fun hne => (hne hid).elim, by rw [h]⟩
  · exact ⟨fun _ => by simpa using h.symm, rfl⟩

/-- The network loop: one attachment without a port per configured network, in order, each on
the network's id as resolved by exactly the calls of the loop. -/
theorem serverNetworksFrom_ok {s : σ} {networks : List OpenStackNetwork}
    {serverNetworks nws : List ServerNetwork}
    (h : (run answer s (serverNetworksFrom serverNetworks networks)).result = .ok nws) :
    ∃ resolved, nws = serverNetworks ++ resolved.map (⟨·, ""⟩) ∧
      List.Forall₂ KeepsOwnID networks resolved ∧
      (run answer s (serverNetworksFrom serverNetworks networks)).trace =
        resolutionCalls networks resolved := by
  induction networks generalizing s serverNetworks with
  | nil => exact ⟨[], by simpa [serverNetworksFrom] using h.symm, .nil, rfl⟩
  | cons network networks ih =>
    simp only [serverNetworksFrom, bind_eq, run_bind_result, run_bind_trace] at h ⊢
    cases hr : (run answer s (resolveNetworkID network)).result with
    | error err => simp [hr] at h
    | ok id =>
      simp only [hr] at h ⊢
      obtain ⟨hown, hcall⟩ := resolveNetworkID_ok answer hr
      obtain ⟨resolved, rfl, hall, htrace⟩ := ih h
      exact ⟨id :: resolved, by simp, .cons hown hall, by rw [hcall, htrace]; rfl⟩

/-- **The network resolver** (spec §4.1), whatever the Network client answers. With a network id
and a subnet id, the one attachment is a port the client created for the machine, bound to the
subnet, with the pod network allowed and the security groups' ids, after exactly the subnet
check and one lookup per configured security-group name, in order. With a network id only, the
attachment is that network, and no call is made. Otherwise the attachments are the configured
networks, in order, each on its own id or on the answer to the lookup of its name, and those
lookups are all the calls made. -/
theorem computeServerNetworks_spec (s : σ) (machineName : String) (nws : List ServerNetwork)
    (h : (run answer s (computeServerNetworks spec machineName)).result = .ok nws) :
    (spec.networkID ≠ "" → isEmptyString spec.subnetID = false →
      ∃ port securityGroupIDs, nws = [⟨spec.networkID, port.id⟩] ∧
        securityGroupIDs.length = spec.securityGroups.length ∧
        (run answer s (computeServerNetworks spec machineName)).trace =
          ⟨.getSubnet (spec.subnetID.getD ""), .ok ()⟩ ::
            (groupLookups spec.securityGroups securityGroupIDs ++
              [⟨.createPort
                { name := machineName, networkID := spec.networkID,
                  fixedIPs := [⟨spec.subnetID.getD ""⟩],
                  allowedAddressPairs := [⟨spec.podNetworkCidr⟩],
                  securityGroups := securityGroupIDs }, .ok port⟩])) ∧
    (spec.networkID ≠ "" → isEmptyString spec.subnetID = true →
      nws = [⟨spec.networkID, ""⟩] ∧ (run answer s (computeServerNetworks spec machineName)).trace = []) ∧
    (spec.networkID = "" →
      ∃ resolved, nws = resolved.map (⟨·, ""⟩) ∧ List.Forall₂ KeepsOwnID spec.networks resolved ∧
        (run answer s (computeServerNetworks spec machineName)).trace =
          resolutionCalls spec.networks resolved) := by
  refine ⟨fun hnet hsubnet => ?_, fun hnet hsubnet => ?_, fun hnet => ?_⟩
  · have hpath : spec.networkID ≠ "" ∧ isEmptyString spec.subnetID = false := ⟨hnet, hsubnet⟩
    simp only [computeServerNetworks, if_pos hpath, bind_eq, Network.getSubnet, Prog.ask, call_bind,
      Prog.pure_bind, run_call] at h ⊢
    cases hr : (answer s (.getSubnet (spec.subnetID.getD ""))).1 with
    | error err => simp [hr] at h
    | ok u =>
      simp only [hr, run_bind_result, run_bind_trace] at h ⊢
      generalize (answer s (.getSubnet (spec.subnetID.getD ""))).2 = s₁ at h ⊢
      cases hg : (run answer s₁ (securityGroupIDsFrom [] spec.securityGroups)).result with
      | error err => simp [hg] at h
      | ok ids =>
        obtain ⟨_, rfl, hlen, htrace⟩ := securityGroupIDsFrom_ok answer hg
        simp only [hg, htrace, Network.createPort, Prog.ask, call_bind, Prog.pure_bind,
          run_call] at h ⊢
        generalize answer _ _ = created at h ⊢
        obtain ⟨_ | port, s₃⟩ := created
        · simp at h
        · simp only [pure_eq, run_pure, Except.ok.injEq] at h
          exact ⟨port, ids, h.symm, hlen, by simp⟩
  · simp [computeServerNetworks, hnet, hsubnet] at h ⊢
    exact h.symm
  · simp only [computeServerNetworks, hnet, ne_eq, not_true_eq_false, false_and, if_false] at h ⊢
    simpa using serverNetworksFrom_ok answer h

/-! ## The instance provisioner -/

/-- **The provisioner's request** (spec §4.2), whatever the Compute client answers. A submission
of `deployServer` carries the request of `serverCreateOpts` for the image and the flavor as
resolved: the image is `ImageID` when set and otherwise the answer to the lookup of `ImageName`,
the flavor is the answer to the lookup of `FlavorName`. With a root disk size the request gets
one boot volume of that size, made from the image and deleted with the server, and goes through
`BootFromVolume`; otherwise through `CreateServer`. -/
theorem deployServer_request (s : σ) (machineName : String) (userData : List UInt8)
    (nws : List ServerNetwork) :
    ∀ e ∈ (run answer s (deployServer spec machineName userData nws)).trace, Boots e.1 →
      ∃ imageRef flavorRef,
        (if spec.imageID ≠ "" then imageRef = spec.imageID
          else (⟨.imageIDFromName spec.imageName, .ok imageRef⟩ : Event) ∈
            (run answer s (deployServer spec machineName userData nws)).trace) ∧
        (⟨.flavorIDFromName spec.flavorName, .ok flavorRef⟩ : Event) ∈
          (run answer s (deployServer spec machineName userData nws)).trace ∧
        e.1 = if 0 < spec.rootDiskSize then
            .bootFromVolume (.bootFromVolume (serverCreateOpts spec machineName userData nws imageRef
              flavorRef) [⟨imageRef, spec.rootDiskSize, 0, true, "image", "volume"⟩])
          else .createServer (serverCreateOpts spec machineName userData nws imageRef flavorRef) := by
  intro e he hboots
  have himage : (∀ e ∈ (run answer s (if spec.imageID ≠ "" then Pure.pure (.ok spec.imageID)
        else Compute.imageIDFromName spec.imageName : Prog (Except ClientError String))).trace,
        ¬Boots e.1) ∧
      ∀ imageRef, (run answer s (if spec.imageID ≠ "" then Pure.pure (.ok spec.imageID)
        else Compute.imageIDFromName spec.imageName : Prog (Except ClientError String))).result =
          .ok imageRef →
        if spec.imageID ≠ "" then imageRef = spec.imageID
        else (⟨.imageIDFromName spec.imageName, .ok imageRef⟩ : Event) ∈
          (run answer s (if spec.imageID ≠ "" then Pure.pure (.ok spec.imageID)
            else Compute.imageIDFromName spec.imageName : Prog (Except ClientError String))).trace := by
    split_ifs with h
    · simp
    · refine ⟨?_, fun imageRef himg => ?_⟩
      · simp [Boots]
      · simp only [Compute.imageIDFromName, Prog.ask, run_call, run_pure] at himg ⊢
        exact himg ▸ List.mem_singleton_self _
  simp only [deployServer, bind_eq, run_bind_result, run_bind_trace, List.mem_append] at he ⊢
  generalize run answer s _ = image at himage he ⊢
  obtain ⟨_ | imageRef, s₁, T₁⟩ := image
  · simp only [Prog.pure_bind, pure_eq, run_pure, List.not_mem_nil, or_false] at he
    exact absurd hboots (himage.1 e he)
  have href := himage.2 imageRef rfl
  simp only [Compute.flavorIDFromName, Prog.ask, call_bind, Prog.pure_bind, run_call,
    List.mem_cons] at he ⊢
  rcases he with he | he | he
  · exact absurd hboots (himage.1 e he)
  · subst he
    simp [Boots] at hboots
  generalize answer s₁ (.flavorIDFromName spec.flavorName) = flavor at he ⊢
  obtain ⟨_ | flavorRef, s₂⟩ := flavor
  · simp at he
  refine ⟨imageRef, flavorRef, ?_, .inr (.inl rfl), ?_⟩
  · by_cases h : spec.imageID ≠ ""
    · rw [if_pos h] at href ⊢
      exact href
    · rw [if_neg h] at href ⊢
      exact .inl href
  · simp only [resourceInstanceBlockDevicesV2, Compute.bootFromVolume, Compute.createServer,
      Prog.ask, call_bind, Prog.pure_bind, gt_iff_lt] at he ⊢
    split_ifs at he ⊢ <;> simp only [run_call, List.mem_cons] at he <;>
      rcases he with rfl | he
    all_goals first | rfl | (split at he <;> simp at he)

/-- The sample machine `m`, without a root disk size, is submitted through `CreateServer` with the
image and flavor ids the provider returned for `image` and `small`. -/
theorem deployServer_request_sample :
    ∃ imageRef flavorRef,
      (⟨.imageIDFromName "image", .ok imageRef⟩ : Event) ∈ (run (Cloud.respond quiet)
        (sampleCloud [], 0) (deployServer (sampleSpec sampleTags none) "m" [] [])).trace ∧
      (⟨.flavorIDFromName "small", .ok flavorRef⟩ : Event) ∈ (run (Cloud.respond quiet)
        (sampleCloud [], 0) (deployServer (sampleSpec sampleTags none) "m" [] [])).trace ∧
      Call.createServer (serverCreateOpts (sampleSpec sampleTags none) "m" [] [] "image-id"
          "small-id") =
        .createServer (serverCreateOpts (sampleSpec sampleTags none) "m" [] [] imageRef flavorRef) := by
  obtain ⟨imageRef, flavorRef, himage, hflavor, hcall⟩ := deployServer_request (Cloud.respond quiet)
    (sampleSpec sampleTags none) (sampleCloud [], 0) "m" [] [] _ (.tail _ (.tail _ (.head _)))
    ⟨_, .inl rfl⟩
  rw [if_neg (by decide)] at himage hcall
  exact ⟨imageRef, flavorRef, himage, hflavor, hcall⟩

/-- The sample machine class with subnet `sub` and security groups `web` and `db`. -/
def twoGroupSpec : MachineProviderConfigSpec :=
  { sampleSpec sampleTags (some "sub") with securityGroups := ["web", "db"] }

/-- The sample provider, which knows the security groups `web` and `db`. -/
def twoGroupCloud : Cloud :=
  { sampleCloud [] with securityGroups := [("web", "sg-1"), ("db", "sg-2")] }

/-- Network `net`, subnet `sub` and two security groups give one attachment, on a new port of
machine `m` bound to `sub` that carries both groups' ids and the pod network, after the subnet
check and the two lookups. -/
theorem computeServerNetworks_two_groups :
    ∃ port securityGroupIDs,
      (Cloud.run quiet twoGroupCloud (computeServerNetworks twoGroupSpec "m")).result =
        .ok [⟨"net", port.id⟩] ∧ securityGroupIDs.length = 2 ∧
      (Cloud.run quiet twoGroupCloud (computeServerNetworks twoGroupSpec "m")).trace =
        ⟨.getSubnet "sub", .ok ()⟩ :: (groupLookups ["web", "db"] securityGroupIDs ++
          [⟨.createPort
            { name := "m", networkID := "net", fixedIPs := [⟨"sub"⟩],
              allowedAddressPairs := [⟨"100.96.0.0/11"⟩], securityGroups := securityGroupIDs },
            .ok port⟩]) := by
  have h : (Cloud.run quiet twoGroupCloud (computeServerNetworks twoGroupSpec "m")).result =
      .ok [⟨"net", "port-3"⟩] := by decide
  obtain ⟨port, ids, hnws, hlen, htrace⟩ := (computeServerNetworks_spec (Cloud.respond quiet)
    twoGroupSpec (twoGroupCloud, 0) "m" _ h).1 (by decide) (by decide)
  exact ⟨port, ids, hnws ▸ h, hlen, htrace⟩

end OpenStackExecutor
