import OpenStackExecutor.Executor.Provision

/-!
# The machine lifecycle

The instance locator (`getMachineByProviderID`, `getMachineByName`, `ListMachines`) and the
lifecycle operations `CreateMachine`, `DeleteMachine` and `GetMachineStatus` of `executor.go`.
The prefixes of the ownership tags are the constants of the cloudprovider package.
-/

namespace OpenStackExecutor

variable (pre : Prefixes) (spec : MachineProviderConfigSpec)

/-- The not-found error of `getMachineByProviderID`, wrapping `ErrNotFound`. -/
def serverIDNotFound (serverID : String) : Error :=
  .wrapf ("could not find server [ID=" ++ quoted serverID ++ "]: ") .errNotFound ""

/-- `Executor.getMachineByProviderID` (spec §4.4): decode the identifier, get the server and
require both ownership tags; a server without them is reported as not found. -/
def getMachineByProviderID (providerID : String) : Prog (Except Error Server) :=
  if decodeProviderID providerID = "" then
    pure (.error (.text ("could not parse serverID from providerID " ++ quoted providerID)))
  else do
    match ← Compute.getServer (decodeProviderID providerID) with
    | .error err =>
      if isNotFoundError err then pure (.error (serverIDNotFound (decodeProviderID providerID)))
      else pure (.error (.client err))
    | .ok server =>
      if (searchTags pre spec.tags.entries).matches server.metadata then pure (.ok server)
      else pure (.error (serverIDNotFound (decodeProviderID providerID)))

/-- `matchingServers` of `getMachineByName`: the listed servers with exactly this name that
carry both ownership tags. -/
def matchingServers (machineName : String) (keys : TagKeys) (listedServers : List Server) :
    List Server :=
  listedServers.filter fun server => server.name == machineName && keys.matches server.metadata

/-- `Executor.getMachineByName` (spec §4.4): both tag names must be found; of the servers the
name filter lists, exactly one may have the exact name and both tags. -/
def getMachineByName (machineName : String) : Prog (Except Error Server) :=
  if !(searchTags pre spec.tags.entries).found then
    pure (.error (.text ("getMachineByName operation can not proceed: cluster/role tags are " ++
      "missing for machine [Name=" ++ quoted machineName ++ "]")))
  else do
    match ← Compute.listServers ⟨machineName⟩ with
    | .error err => pure (.error (.client err))
    | .ok listedServers =>
      if (matchingServers machineName (searchTags pre spec.tags.entries) listedServers).length > 1
      then pure (.error (.wrapf ("failed to find server [Name=" ++ quoted machineName ++ "]: ")
        .errMultipleFound ""))
      else
        match matchingServers machineName (searchTags pre spec.tags.entries) listedServers with
        | [] => pure (.error (.wrapf ("failed to find server [Name=" ++ quoted machineName ++
          "]: ") .errNotFound ""))
        | server :: _ => pure (.ok server)

/-- `Executor.deletePort`: delete the port named after the machine; an absent port is fine. -/
def deletePort (machineName : String) : Prog (Except Error Unit) := do
  match ← Network.portIDFromName machineName with
  | .error err =>
    if isNotFoundError err then pure (.ok ())
    else pure (.error (.errorf ("error deleting port with name " ++ quoted machineName ++ ": ")
      (.client err) ""))
  | .ok portID =>
    match ← Network.deletePort portID with
    | .error err => pure (.error (.client err))
    | .ok () => pure (.ok ())

/-- The lookup `DeleteMachine` starts with: by identifier when one is given, else by name. -/
def lookupMachine (machineName providerID : String) : Prog (Except Error Server) :=
  if providerID = "" then getMachineByName pre spec machineName
  else getMachineByProviderID pre spec providerID

/-- The part of `DeleteMachine` after a server was found: delete it, wait until it is gone and,
when a subnet is configured, delete the port pre-allocated for the machine. -/
def deleteFoundServer (machineName : String) (server : Server) : Prog (Except Error Unit) := do
  match ← Compute.deleteServer server.id with
  | .error err => pure (.error (.client err))
  | .ok () =>
    match ← waitForStatus server.id [] [serverStatusDeleted] 300 with
    | .error err =>
      pure (.error (.errorf ("error while waiting for server [ID=" ++ quoted server.id ++
        "] to be deleted: ") err ""))
    | .ok () =>
      if isEmptyString spec.subnetID = false then deletePort machineName else pure (.ok ())

/-- `Executor.DeleteMachine` (spec §4.5): a machine that is not found is already deleted;
otherwise `deleteFoundServer`. -/
def deleteMachine (machineName providerID : String) : Prog (Except Error Unit) := do
  match ← lookupMachine pre spec machineName providerID with
  | .error err => if err.is .errNotFound then pure (.ok ()) else pure (.error err)
  | .ok server => deleteFoundServer spec machineName server

/-- The loop of `patchServerPortsForPodNetwork`: allow the pod network on each port. -/
def updatePortsFrom : List Port → Prog (Except Error Unit)
  | [] => pure (.ok ())
  | port :: ports => do
    match ← Network.updatePort port.id ⟨[⟨spec.podNetworkCidr⟩]⟩ with
    | .error err =>
      pure (.error (.errorf ("failed to update allowed address pair for port [ID=" ++
        quoted port.id ++ "]: ") (.client err) ""))
    | .ok () => updatePortsFrom ports

/-- `Executor.patchServerPortsForPodNetwork`: allow the pod network CIDR on every port of the
server that lies on a pod network. -/
def patchServerPortsForPodNetwork (serverID : String) : Prog (Except Error Unit) := do
  match ← computePodNetworkIDs spec serverID with
  | .error err => pure (.error err)
  | .ok podNetworkPorts => updatePortsFrom spec podNetworkPorts

/-- The test of `verifyServerPortsForPodNetwork`'s inner loop: some allowed address pair of the
port is the pod network CIDR. -/
def allowsPodNetwork (port : Port) : Bool :=
  port.allowedAddressPairs.any fun addressPair => addressPair.ipAddress == spec.podNetworkCidr

/-- `Executor.verifyServerPortsForPodNetwork`: the first pod-network port that does not allow the
pod network CIDR is an error. -/
def verifyServerPortsForPodNetwork (serverID : String) : Prog (Except Error Unit) := do
  match ← computePodNetworkIDs spec serverID with
  | .error err => pure (.error err)
  | .ok podNetworkPorts =>
    match podNetworkPorts.find? fun port => !allowsPodNetwork spec port with
    | some port =>
      pure (.error (.text ("port [ID=" ++ quoted port.id ++ "] of server [ID=" ++
        quoted serverID ++ "] is not configured for pod network, but it should")))
    | none => pure (.ok ())

/-- `Executor.GetMachineStatus` (spec §4.5): locate by name, verify the pod network ports and
return the encoded identifier. -/
def getMachineStatus (machineName : String) : Prog (Except Error String) := do
  match ← getMachineByName pre spec machineName with
  | .error err => pure (.error err)
  | .ok server =>
    match ← verifyServerPortsForPodNetwork spec server.id with
    | .error err => pure (.error err)
    | .ok () => pure (.ok (encodeProviderID spec.region server.id))

/-- The loop of `ListMachines`: record every owned server under its encoded identifier. -/
def listedMachines (region : String) (keys : TagKeys) (result : GoMap) : List Server → GoMap
  | [] => result
  | server :: servers =>
    if keys.matches server.metadata then
      listedMachines region keys (result.insert (encodeProviderID region server.id) server.name)
        servers
    else listedMachines region keys result servers

/-- `Executor.ListMachines` (spec §4.4): the owned servers, by encoded identifier. -/
def listMachines : Prog (Except Error GoMap) :=
  if !(searchTags pre spec.tags.entries).found then
    pure (.error (.text "operation can not proceed: cluster/role tags are missing"))
  else do
    match ← Compute.listServers ⟨""⟩ with
    | .error err => pure (.error (.client err))
    | .ok servers =>
      pure (.ok (listedMachines spec.region (searchTags pre spec.tags.entries) .empty servers))

/-- The closure `deleteOnFail` of `CreateMachine`: delete the machine, and report a failed
deletion together with the original error. -/
def deleteOnFail (machineName : String) (server : Server) (err : Error) : Prog Error := do
  match ← deleteMachine pre spec machineName (encodeProviderID spec.region server.id) with
  | .error errIn =>
    pure (.wrapfWith ("error deleting server [ID=" ++ quoted server.id ++
      "] after unsuccessful creation attempt: ") errIn ". Original error: " err)
  | .ok () => pure err

/-- `Executor.CreateMachine` (spec §4.5): resolve the networks, submit the server, wait until it
is `ACTIVE` and patch its ports; a failure after the submission deletes the machine again. -/
def createMachine (machineName : String) (userData : List UInt8) :
    Prog (Except Error String) := do
  match ← computeServerNetworks spec machineName with
  | .error err => pure (.error (.wrapf "failed to resolve server networks: " err ""))
  | .ok serverNetworks =>
    match ← deployServer spec machineName userData serverNetworks with
    | .error err =>
      pure (.error (.wrapf ("failed to deploy server for machine " ++ quoted machineName ++
        ": ") err ""))
    | .ok server =>
      match ← waitForStatus server.id [serverStatusBuild] [serverStatusActive] 600 with
      | .error err =>
        .error <$> deleteOnFail pre spec machineName server (.wrapf ("error waiting for server " ++
          "[ID=" ++ quoted server.id ++ "] to reach target status: ") err "")
      | .ok () =>
        match ← patchServerPortsForPodNetwork spec server.id with
        | .error err =>
          .error <$> deleteOnFail pre spec machineName server (.errorf ("failed to patch server " ++
            "[ID=" ++ quoted server.id ++ "] ports: ") err "")
        | .ok () => pure (.ok (encodeProviderID spec.region server.id))

end OpenStackExecutor
