import OpenStackExecutor.Program
import OpenStackExecutor.Config

/-!
# Provisioning: networks, the create request and the status wait

The network resolver (`computeServerNetworks`, `computePodNetworkIDs`), the instance
provisioner (`deployServer`) and the status poller (`waitForStatus`) of `executor.go`. Each Go
`for` loop with an accumulator is a function recursive on the rest of the list, taking the
accumulator as its first argument.
-/

namespace OpenStackExecutor

/-- The id of one configured network: its own id, or its name resolved by the Network client.
Both network loops of `executor.go` contain this step. -/
def resolveNetworkID (network : OpenStackNetwork) : Prog (Except ClientError String) :=
  if network.id = "" then Network.networkIDFromName network.name else pure (.ok network.id)

/-- The loop of `computeServerNetworks` over `ex.Config.Spec.SecurityGroups`. -/
def securityGroupIDsFrom (securityGroupIDs : List String) :
    List String → Prog (Except Error (List String))
  | [] => pure (.ok securityGroupIDs)
  | securityGroup :: securityGroups => do
    match ← Network.groupIDFromName securityGroup with
    | .error err => pure (.error (.client err))
    | .ok securityGroupID => securityGroupIDsFrom (securityGroupIDs ++ [securityGroupID]) securityGroups

/-- The loop of `computeServerNetworks` over `ex.Config.Spec.Networks`. -/
def serverNetworksFrom (serverNetworks : List ServerNetwork) :
    List OpenStackNetwork → Prog (Except Error (List ServerNetwork))
  | [] => pure (.ok serverNetworks)
  | network :: networks => do
    match ← resolveNetworkID network with
    | .error err => pure (.error (.client err))
    | .ok resolvedNetworkID =>
      serverNetworksFrom (serverNetworks ++ [⟨resolvedNetworkID, ""⟩]) networks

/-- `Executor.computeServerNetworks` (spec §4.1): with a network id and a subnet id, check the
subnet, resolve the security groups and pre-allocate a port in the subnet; with a network id
only, attach to that network; otherwise resolve the configured networks in order. -/
def computeServerNetworks (spec : MachineProviderConfigSpec) (machineName : String) :
    Prog (Except Error (List ServerNetwork)) :=
  if spec.networkID ≠ "" ∧ isEmptyString spec.subnetID = false then do
    match ← Network.getSubnet (spec.subnetID.getD "") with
    | .error err => pure (.error (.client err))
    | .ok () =>
      match ← securityGroupIDsFrom [] spec.securityGroups with
      | .error err => pure (.error err)
      | .ok securityGroupIDs =>
        match ← Network.createPort
            { name := machineName, networkID := spec.networkID,
              fixedIPs := [⟨spec.subnetID.getD ""⟩],
              allowedAddressPairs := [⟨spec.podNetworkCidr⟩],
              securityGroups := securityGroupIDs } with
        | .error err => pure (.error (.client err))
        | .ok port => pure (.ok [⟨spec.networkID, port.id⟩])
  else if spec.networkID ≠ "" then pure (.ok [⟨spec.networkID, ""⟩])
  else serverNetworksFrom [] spec.networks

/-- The loop of `computePodNetworkIDs` over the networks flagged as pod networks. -/
def podNetworkIDsFrom (networkIDs : List String) :
    List OpenStackNetwork → Prog (Except Error (List String))
  | [] => pure (.ok networkIDs)
  | network :: networks =>
    if network.podNetwork then do
      match ← resolveNetworkID network with
      | .error err => pure (.error (.client err))
      | .ok resolvedNetworkID => podNetworkIDsFrom (networkIDs.insert resolvedNetworkID) networks
    else podNetworkIDsFrom networkIDs networks

/-- The pod network ids: the configured network id, or the resolved pod networks. -/
def podNetworkIDs (spec : MachineProviderConfigSpec) : Prog (Except Error (List String)) :=
  if spec.networkID ≠ "" then pure (.ok [spec.networkID]) else podNetworkIDsFrom [] spec.networks

/-- `Executor.computePodNetworkIDs`: the ports of a server that lie on a pod network. It fails
when the server has no port at all, or none on a pod network. -/
def computePodNetworkIDs (spec : MachineProviderConfigSpec) (serverID : String) :
    Prog (Except Error (List Port)) := do
  match ← podNetworkIDs spec with
  | .error err => pure (.error err)
  | .ok networkIDs =>
    match ← Network.listPorts ⟨serverID⟩ with
    | .error err => pure (.error (.errorf "failed to get ports: " (.client err) ""))
    | .ok serverPorts =>
      if serverPorts.isEmpty then
        pure (.error (.text ("got an empty port list for server " ++ quoted serverID)))
      else if (serverPorts.filter fun port => networkIDs.contains port.networkID).isEmpty then
        pure (.error (.text "no port candidates found for pod network"))
      else pure (.ok (serverPorts.filter fun port => networkIDs.contains port.networkID))

/-- `wait.Poll(time.Second, timeout, condition)` for a timeout of `ticks` seconds, `0 < ticks`:
the poller ticks once a second and closes its channel at the deadline, and `WaitFor` evaluates
the condition on every tick and once more when it finds the channel closed, reporting
`ErrWaitTimeout` only after that last evaluation. With the condition taking no time and the tick
due at the deadline delivered before the channel closes, that is `ticks + 1` evaluations, each
stopping the wait when it reports done or fails. A zero timeout means no deadline at all, a wait
that need not end, which this terminating model leaves out: the executor never passes one. -/
def poll (condition : Prog (Except Error Bool)) : Nat → Prog (Except Error Unit)
  | 0 => do
    match ← condition with
    | .error err => pure (.error err)
    | .ok true => pure (.ok ())
    | .ok false => pure (.error .waitTimeout)
  | ticks + 1 => do
    match ← condition with
    | .error err => pure (.error err)
    | .ok true => pure (.ok ())
    | .ok false => poll condition ticks

/-- The error of `waitForStatus`'s condition for a status outside both lists, with the fault
appended when the status is `ERROR`. -/
def unexpectedStatus (serverID : String) (current : Server) : Error :=
  if current.status = serverStatusError then
    .errorf "" (.text ("server [ID=" ++ quoted serverID ++ "] reached unexpected status " ++
      quoted current.status)) (", fault: " ++ current.fault.plusV)
  else .text ("server [ID=" ++ quoted serverID ++ "] reached unexpected status " ++
    quoted current.status)

/-- The condition `waitForStatus` hands to `wait.Poll` (spec §4.3). -/
def statusCondition (serverID : String) (pending target : List String) :
    Prog (Except Error Bool) := do
  match ← Compute.getServer serverID with
  | .error err =>
    if isNotFoundError err && strSliceContains target serverStatusDeleted then pure (.ok true)
    else pure (.error (.client err))
  | .ok current =>
    if strSliceContains target current.status then pure (.ok true)
    else if pending.isEmpty || strSliceContains pending current.status then pure (.ok false)
    else pure (.error (unexpectedStatus serverID current))

/-- `Executor.waitForStatus`: poll the server once a second for `secs` seconds, `0 < secs`. -/
def waitForStatus (serverID : String) (pending target : List String) (secs : Nat) :
    Prog (Except Error Unit) :=
  poll (statusCondition serverID pending target) secs

/-- `resourceInstanceBlockDevicesV2`: one boot volume of the given size, made from the image and
deleted with the server. -/
def resourceInstanceBlockDevicesV2 (rootDiskSize : Int) (imageID : String) :
    Except Error (List BlockDevice) :=
  .ok [{ uuid := imageID, volumeSize := rootDiskSize, bootIndex := 0,
         deleteOnTermination := true, sourceType := "image", destinationType := "volume" }]

/-- The create request of `deployServer` with its extension layers (spec §4.2): the key pair
always, scheduler hints when a server group is set. -/
def serverCreateOpts (spec : MachineProviderConfigSpec) (machineName : String)
    (userData : List UInt8) (nws : List ServerNetwork) (imageRef flavorRef : String) :
    CreateOptsBuilder :=
  let createOpts := CreateOptsBuilder.keypairs
    (.base { name := machineName, flavorRef := flavorRef, imageRef := imageRef, networks := nws,
             securityGroups := spec.securityGroups, metadata := spec.tags.entries,
             userData := userData, availabilityZone := spec.availabilityZone,
             configDrive := spec.useConfigDrive })
    spec.keyName
  match spec.serverGroupID with
  | some group => .schedulerHints createOpts group
  | none => createOpts

/-- `Executor.deployServer`: resolve the image (unless its id is given) and the flavor, then
submit one create request, through `BootFromVolume` when a root disk size is set. The flavor
error names the image, as the source does. -/
def deployServer (spec : MachineProviderConfigSpec) (machineName : String)
    (userData : List UInt8) (nws : List ServerNetwork) : Prog (Except Error Server) := do
  match ← (if spec.imageID ≠ "" then pure (.ok spec.imageID)
      else Compute.imageIDFromName spec.imageName : Prog (Except ClientError String)) with
  | .error err =>
    pure (.error (.errorf ("error resolving image ID from image name " ++
      quoted spec.imageName ++ ": ") (.client err) ""))
  | .ok imageRef =>
    match ← Compute.flavorIDFromName spec.flavorName with
    | .error err =>
      pure (.error (.errorf ("error resolving flavor ID from flavor name " ++
        quoted spec.imageName ++ ": ") (.client err) ""))
    | .ok flavorRef =>
      let createOpts := serverCreateOpts spec machineName userData nws imageRef flavorRef
      if spec.rootDiskSize > 0 then
        match resourceInstanceBlockDevicesV2 spec.rootDiskSize imageRef with
        | .error err => pure (.error err)
        | .ok blockDevices => do
          match ← Compute.bootFromVolume (.bootFromVolume createOpts blockDevices) with
          | .error err => pure (.error (.client err))
          | .ok server => pure (.ok server)
      else do
        match ← Compute.createServer createOpts with
        | .error err => pure (.error (.client err))
        | .ok server => pure (.ok server)

end OpenStackExecutor
