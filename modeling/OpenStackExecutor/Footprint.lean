import OpenStackExecutor.Executor.Lifecycle

/-!
# Footprints of the executor's methods

Which calls each method can make, whatever the clients answer: the locator, the poller and the
status check only read; the network resolver, the provisioner and the port patch create or
update but never delete. Only `DeleteMachine` deletes servers and ports.
-/

namespace OpenStackExecutor

open Prog

/-- A call that changes nothing on the provider. -/
def ReadOnly (c : Call) : Prop := c.mutates = false

/-- A call that deletes neither a server nor a port. -/
def NoDeletion (c : Call) : Prop := c.deletedServer? = none ∧ c.deletedPort? = none

theorem ReadOnly.noDeletion {c : Call} (h : ReadOnly c) : NoDeletion c := by
  cases c <;> simp_all [ReadOnly, NoDeletion, Call.mutates, Call.deletedServer?, Call.deletedPort?]

/-- A call that submits a server. -/
def Boots (c : Call) : Prop := ∃ opts, c = .createServer opts ∨ c = .bootFromVolume opts

theorem ReadOnly.not_boots {c : Call} (h : ReadOnly c) : ¬Boots c := by
  rintro ⟨opts, rfl | rfl⟩ <;> simp [ReadOnly, Call.mutates] at h

theorem not_boots_createPort (opts : PortCreateOpts) : ¬Boots (.createPort opts) := by
  rintro ⟨_, h | h⟩ <;> cases h

theorem not_boots_updatePort (id : String) (opts : PortUpdateOpts) :
    ¬Boots (.updatePort id opts) := by
  rintro ⟨_, h | h⟩ <;> cases h

/-- A program that deletes nothing leaves no deletion in its traces. -/
theorem Prog.Uses.deletions_eq_nil {σ α : Type}
    {answer : σ → (c : Call) → Except ClientError c.Result × σ} {p : Prog α}
    (hp : p.Uses NoDeletion) (s : σ) :
    deletedServers (run answer s p).trace = [] ∧ deletedPorts (run answer s p).trace = [] :=
  ⟨List.filterMap_eq_nil_iff.mpr fun e he => (hp.trace s e he).1,
    List.filterMap_eq_nil_iff.mpr fun e he => (hp.trace s e he).2⟩

/-- A program that submits no server leaves no submission in its traces. -/
theorem Prog.Uses.submissions_eq_nil {σ α : Type}
    (answer : σ → (c : Call) → Except ClientError c.Result × σ) {p : Prog α}
    (hp : p.Uses fun c => ¬Boots c) (s : σ) :
    submissions (run answer s p).trace = [] ∧ acceptedServers (run answer s p).trace = [] := by
  refine ⟨List.filterMap_eq_nil_iff.mpr fun e he => ?_, List.filterMap_eq_nil_iff.mpr fun e he => ?_⟩ <;>
    obtain ⟨c, r⟩ := e <;> have hc := hp.trace s _ he <;>
    cases c <;> first | rfl | simp [Boots] at hc

theorem Prog.Uses.readOnly_deletions_eq_nil {σ α : Type}
    {answer : σ → (c : Call) → Except ClientError c.Result × σ} {p : Prog α}
    (hp : p.Uses ReadOnly) (s : σ) :
    deletedServers (run answer s p).trace = [] ∧ deletedPorts (run answer s p).trace = [] :=
  (hp.mono fun _ => ReadOnly.noDeletion).deletions_eq_nil s

/-- A call of the steps of `CreateMachine` around the submission: it neither submits nor
deletes. -/
def Prepares (c : Call) : Prop := ¬Boots c ∧ NoDeletion c

theorem ReadOnly.prepares {c : Call} (h : ReadOnly c) : Prepares c := ⟨h.not_boots, h.noDeletion⟩

/-- A run of such steps submits nothing and deletes nothing. -/
theorem Prog.Uses.prepares_trace {σ α : Type}
    (answer : σ → (c : Call) → Except ClientError c.Result × σ) {p : Prog α}
    (hp : p.Uses Prepares) (s : σ) :
    submissions (run answer s p).trace = [] ∧ acceptedServers (run answer s p).trace = [] ∧
      deletedServers (run answer s p).trace = [] ∧ deletedPorts (run answer s p).trace = [] :=
  ⟨((hp.mono fun _ h => h.1).submissions_eq_nil answer s).1,
    ((hp.mono fun _ h => h.1).submissions_eq_nil answer s).2, (hp.mono fun _ h => h.2).deletions_eq_nil s⟩

variable (pre : Prefixes) (spec : MachineProviderConfigSpec)

theorem resolveNetworkID_readOnly (network : OpenStackNetwork) :
    (resolveNetworkID network).Uses ReadOnly :=
  Uses.ite (Uses.ask rfl) trivial

theorem securityGroupIDsFrom_readOnly (securityGroupIDs securityGroups : List String) :
    (securityGroupIDsFrom securityGroupIDs securityGroups).Uses ReadOnly := by
  induction securityGroups generalizing securityGroupIDs with
  | nil => trivial
  | cons securityGroup securityGroups ih =>
    refine Uses.bind (Uses.ask rfl) fun r => ?_
    cases r
    · trivial
    · exact ih _

theorem serverNetworksFrom_readOnly (serverNetworks : List ServerNetwork)
    (networks : List OpenStackNetwork) : (serverNetworksFrom serverNetworks networks).Uses ReadOnly := by
  induction networks generalizing serverNetworks with
  | nil => trivial
  | cons network networks ih =>
    refine Uses.bind (resolveNetworkID_readOnly network) fun r => ?_
    cases r
    · trivial
    · exact ih _

/-- The network resolver reads, and creates at most ports. -/
theorem computeServerNetworks_uses {allowed : Call → Prop} (hread : ∀ c, ReadOnly c → allowed c)
    (hport : ∀ opts, allowed (.createPort opts)) (machineName : String) :
    (computeServerNetworks spec machineName).Uses allowed := by
  unfold computeServerNetworks
  refine Uses.ite (Uses.bind (Uses.ask (hread _ rfl)) fun r => ?_)
    (Uses.ite trivial ((serverNetworksFrom_readOnly _ _).mono hread))
  cases r
  · trivial
  · refine Uses.bind ((securityGroupIDsFrom_readOnly _ _).mono hread) fun r => ?_
    cases r
    · trivial
    · exact Uses.bind (Uses.ask (hport _)) fun r => by cases r <;> trivial

theorem computeServerNetworks_noDeletion (machineName : String) :
    (computeServerNetworks spec machineName).Uses NoDeletion :=
  computeServerNetworks_uses spec (fun _ => ReadOnly.noDeletion) (fun _ => ⟨rfl, rfl⟩) machineName

theorem podNetworkIDsFrom_readOnly (networkIDs : List String) (networks : List OpenStackNetwork) :
    (podNetworkIDsFrom networkIDs networks).Uses ReadOnly := by
  induction networks generalizing networkIDs with
  | nil => trivial
  | cons network networks ih =>
    refine Uses.ite (Uses.bind (resolveNetworkID_readOnly network) fun r => ?_) (ih _)
    cases r
    · trivial
    · exact ih _

theorem podNetworkIDs_readOnly : (podNetworkIDs spec).Uses ReadOnly :=
  Uses.ite trivial (podNetworkIDsFrom_readOnly _ _)

theorem computePodNetworkIDs_readOnly (serverID : String) :
    (computePodNetworkIDs spec serverID).Uses ReadOnly := by
  refine Uses.bind (podNetworkIDs_readOnly spec) fun r => ?_
  cases r
  · trivial
  · refine Uses.bind (Uses.ask rfl) fun r => ?_
    cases r
    · trivial
    · exact Uses.ite trivial (Uses.ite trivial trivial)

theorem poll_uses {allowed : Call → Prop} {condition : Prog (Except Error Bool)}
    (h : condition.Uses allowed) (ticks : Nat) : (poll condition ticks).Uses allowed := by
  induction ticks with
  | zero => exact Uses.bind h fun r => by rcases r with _ | _ | _ <;> trivial
  | succ ticks ih =>
    refine Uses.bind h fun r => ?_
    rcases r with _ | _ | _
    · trivial
    · exact ih
    · trivial

/-- `waitForStatus` only ever asks for the server it waits on. -/
theorem waitForStatus_polls (serverID : String) (pending target : List String) (secs : Nat) :
    (waitForStatus serverID pending target secs).Uses (· = .getServer serverID) := by
  refine poll_uses ?_ secs
  refine Uses.bind (Uses.ask rfl) fun r => ?_
  cases r
  · exact Uses.ite trivial trivial
  · exact Uses.ite trivial (Uses.ite trivial trivial)

theorem waitForStatus_readOnly (serverID : String) (pending target : List String) (secs : Nat) :
    (waitForStatus serverID pending target secs).Uses ReadOnly :=
  (waitForStatus_polls serverID pending target secs).mono fun _ h => h ▸ rfl

/-- The provisioner reads and submits. -/
theorem deployServer_uses {allowed : Call → Prop} (hread : ∀ c, ReadOnly c → allowed c)
    (hsubmit : ∀ opts, allowed (.createServer opts) ∧ allowed (.bootFromVolume opts))
    (machineName : String) (userData : List UInt8) (nws : List ServerNetwork) :
    (deployServer spec machineName userData nws).Uses allowed := by
  refine Uses.bind (Uses.ite trivial (Uses.ask (hread _ rfl))) fun r => ?_
  cases r
  · trivial
  · refine Uses.bind (Uses.ask (hread _ rfl)) fun r => ?_
    cases r
    · trivial
    · refine Uses.ite ?_ (Uses.bind (Uses.ask (hsubmit _).1) fun r => by cases r <;> trivial)
      exact Uses.bind (Uses.ask (hsubmit _).2) fun r => by cases r <;> trivial

theorem deployServer_noDeletion (machineName : String) (userData : List UInt8)
    (nws : List ServerNetwork) : (deployServer spec machineName userData nws).Uses NoDeletion :=
  deployServer_uses spec (fun _ => ReadOnly.noDeletion) (fun _ => ⟨⟨rfl, rfl⟩, rfl, rfl⟩)
    machineName userData nws

/-- A call that submits, if at all, a request for a server of this name and metadata. -/
def SubmitsAs (name : String) (metadata : List (String × String)) (c : Call) : Prop :=
  ∀ opts, c.submission? = some opts → opts.opts.name = name ∧ opts.opts.metadata = metadata

theorem SubmitsAs.of_not_boots {name : String} {metadata : List (String × String)} {c : Call}
    (h : ¬Boots c) : SubmitsAs name metadata c := fun opts hc => by
  cases c <;> simp only [Call.submission?, reduceCtorEq] at hc
  exacts [absurd ⟨_, .inl rfl⟩ h, absurd ⟨_, .inr rfl⟩ h]

/-- Every submission in a run of such a program is of that name and metadata. -/
theorem Prog.Uses.submissions_as {σ α : Type}
    {answer : σ → (c : Call) → Except ClientError c.Result × σ} {p : Prog α} {name : String}
    {metadata : List (String × String)} (hp : p.Uses (SubmitsAs name metadata)) (s : σ) :
    ∀ opts ∈ submissions (run answer s p).trace,
      opts.opts.name = name ∧ opts.opts.metadata = metadata := fun opts h =>
  let ⟨e, he, hsub⟩ := List.mem_filterMap.mp h
  hp.trace s e he opts hsub

/-- The provisioner submits the machine's name with the configured tags as metadata. -/
theorem deployServer_submitsAs (machineName : String) (userData : List UInt8)
    (nws : List ServerNetwork) :
    (deployServer spec machineName userData nws).Uses (SubmitsAs machineName spec.tags.entries) := by
  have hopts : ∀ imageRef flavorRef,
      (serverCreateOpts spec machineName userData nws imageRef flavorRef).opts.name = machineName ∧
        (serverCreateOpts spec machineName userData nws imageRef flavorRef).opts.metadata =
          spec.tags.entries := fun _ _ => by
    unfold serverCreateOpts
    split <;> exact ⟨rfl, rfl⟩
  have hread : ∀ c, ReadOnly c → SubmitsAs machineName spec.tags.entries c :=
    fun _ h => .of_not_boots h.not_boots
  refine Uses.bind (Uses.ite trivial (Uses.ask (hread _ rfl))) fun r => ?_
  cases r
  · trivial
  · refine Uses.bind (Uses.ask (hread _ rfl)) fun r => ?_
    cases r
    · trivial
    · refine Uses.ite ?_ (Uses.bind (Uses.ask fun opts h => ?_) fun r => by cases r <;> trivial)
      · exact Uses.bind (Uses.ask fun opts h => by
          simp only [Call.submission?, Option.some.injEq] at h
          subst h
          exact hopts _ _) fun r => by cases r <;> trivial
      · simp only [Call.submission?, Option.some.injEq] at h
        subst h
        exact hopts _ _

/-- The port patch reads and updates ports. -/
theorem patchServerPortsForPodNetwork_uses {allowed : Call → Prop}
    (hread : ∀ c, ReadOnly c → allowed c) (hupdate : ∀ id opts, allowed (.updatePort id opts))
    (serverID : String) : (patchServerPortsForPodNetwork spec serverID).Uses allowed := by
  refine Uses.bind ((computePodNetworkIDs_readOnly spec serverID).mono hread) fun r => ?_
  cases r with
  | error err => trivial
  | ok ports =>
    induction ports with
    | nil => trivial
    | cons port ports ih =>
      refine Uses.bind (Uses.ask (hupdate _ _)) fun r => ?_
      cases r
      · trivial
      · exact ih

theorem patchServerPortsForPodNetwork_noDeletion (serverID : String) :
    (patchServerPortsForPodNetwork spec serverID).Uses NoDeletion :=
  patchServerPortsForPodNetwork_uses spec (fun _ => ReadOnly.noDeletion) (fun _ _ => ⟨rfl, rfl⟩)
    serverID

theorem getMachineByProviderID_readOnly (providerID : String) :
    (getMachineByProviderID pre spec providerID).Uses ReadOnly := by
  refine Uses.ite trivial (Uses.bind (Uses.ask rfl) fun r => ?_)
  cases r
  · exact Uses.ite trivial trivial
  · exact Uses.ite trivial trivial

theorem getMachineByName_readOnly (machineName : String) :
    (getMachineByName pre spec machineName).Uses ReadOnly := by
  refine Uses.ite trivial (Uses.bind (Uses.ask rfl) fun r => ?_)
  cases r
  · trivial
  · refine Uses.ite trivial ?_
    split <;> trivial

theorem lookupMachine_readOnly (machineName providerID : String) :
    (lookupMachine pre spec machineName providerID).Uses ReadOnly :=
  Uses.ite (getMachineByName_readOnly pre spec machineName)
    (getMachineByProviderID_readOnly pre spec providerID)

theorem verifyServerPortsForPodNetwork_readOnly (serverID : String) :
    (verifyServerPortsForPodNetwork spec serverID).Uses ReadOnly := by
  refine Uses.bind (computePodNetworkIDs_readOnly spec serverID) fun r => ?_
  split
  · trivial
  · split <;> trivial

theorem getMachineStatus_readOnly (machineName : String) :
    (getMachineStatus pre spec machineName).Uses ReadOnly := by
  refine Uses.bind (getMachineByName_readOnly pre spec machineName) fun r => ?_
  rcases r with _ | server
  · trivial
  · refine Uses.bind (verifyServerPortsForPodNetwork_readOnly spec server.id) fun r => ?_
    rcases r with _ | _ <;> trivial

theorem listMachines_readOnly : (listMachines pre spec).Uses ReadOnly := by
  refine Uses.ite trivial (Uses.bind (Uses.ask rfl) fun r => ?_)
  rcases r with _ | _ <;> trivial

end OpenStackExecutor
