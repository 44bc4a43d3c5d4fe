import Mathlib.Data.List.Basic

/-!
# The Compute and Network capabilities

The executor talks to OpenStack only through the `client.Compute` and `client.Network`
interfaces. This file fixes their vocabulary: the records they exchange, the calls the executor
makes, and the Go errors the executor builds from their failures. Fields that no modelled code
reads or writes are left out of the records.
-/

namespace OpenStackExecutor

/-- The failures the two clients report, as one shared kind enumeration (spec §9). `notFound`
is what `client.IsNotFoundError` recognises. -/
inductive ClientError where
  /-- A 404 from the provider, or a name that resolves to nothing. -/
  | notFound (msg : String)
  /-- Any other failure: a rejected request, an ambiguous name, a transport error. -/
  | failed (msg : String)
  deriving DecidableEq, Repr

/-- `client.IsNotFoundError`: a type test on the client's own error, without unwrapping. -/
def isNotFoundError : ClientError → Bool
  | .notFound _ => true
  | .failed _ => false

/-- A Go `error` value built by the executor. `errorf` renders its operand with `%v` or `%s`,
`wrapf` with `%w` (so that `errors.Is` sees through it); `wrapfWith` is the one format with a
`%w` operand followed by a `%v` operand. -/
inductive Error where
  | client (err : ClientError)
  /-- The executor's sentinel `ErrNotFound`. -/
  | errNotFound
  /-- The executor's sentinel `ErrMultipleFound`. -/
  | errMultipleFound
  /-- `wait.ErrWaitTimeout`. -/
  | waitTimeout
  | text (msg : String)
  | errorf (pre : String) (cause : Error) (post : String)
  | wrapf (pre : String) (cause : Error) (post : String)
  | wrapfWith (pre : String) (cause : Error) (mid : String) (other : Error)
  deriving DecidableEq, Repr

/-- `errors.Is`: the error itself or any error along its `%w` chain equals the target. -/
def Error.is (err target : Error) : Bool :=
  err == target ||
    match err with
    | .wrapf _ cause _ => cause.is target
    | .wrapfWith _ cause _ _ => cause.is target
    | _ => false

/-- `%q` of an identifier or name: the text between double quotes. -/
def quoted (s : String) : String := "\"" ++ s ++ "\""

instance exceptDecidableEq {ε α : Type} [DecidableEq ε] [DecidableEq α] : DecidableEq (Except ε α)
  | .ok a, .ok b => decidable_of_iff (a = b) (by simp)
  | .error a, .error b => decidable_of_iff (a = b) (by simp)
  | .ok _, .error _ => isFalse (by simp)
  | .error _, .ok _ => isFalse (by simp)

/-- `servers.Fault`, the provider's explanation of an `ERROR` status. -/
structure Fault where
  code : Int
  created : String
  details : String
  message : String
  deriving DecidableEq, Repr

/-- `%+v` of a `servers.Fault`. -/
def Fault.plusV (fault : Fault) : String :=
  "\x7bCode:" ++ toString fault.code ++ " Created:" ++ fault.created ++ " Details:" ++
    fault.details ++ " Message:" ++ fault.message ++ "\x7d"

/-- `servers.Server`, as the Compute client returns it. -/
structure Server where
  id : String
  name : String
  status : String
  metadata : List (String × String)
  fault : Fault
  deriving DecidableEq, Repr

/-- `ports.AddressPair`; the MAC address is never set by the executor. -/
structure AddressPair where
  ipAddress : String
  deriving DecidableEq, Repr

/-- `ports.IP`, a fixed IP requested from a subnet. -/
structure IP where
  subnetID : String
  deriving DecidableEq, Repr

/-- `ports.Port`, as the Network client returns it. -/
structure Port where
  id : String
  name : String
  networkID : String
  deviceID : String
  fixedIPs : List IP
  allowedAddressPairs : List AddressPair
  securityGroups : List String
  /-- Whether deleting the server the port is bound to keeps the port (a port created through the
  Network client) instead of deleting it (a port the provider created while booting). -/
  preserveOnDelete : Bool
  deriving DecidableEq, Repr

/-- `servers.Network`: one network attachment, with a pre-allocated port or `""`. -/
structure ServerNetwork where
  uuid : String
  port : String
  deriving DecidableEq, Repr

/-- `bootfromvolume.BlockDevice`. -/
structure BlockDevice where
  uuid : String
  volumeSize : Int
  bootIndex : Int
  deleteOnTermination : Bool
  sourceType : String
  destinationType : String
  deriving DecidableEq, Repr

/-- `servers.CreateOpts`, the base layer of a create request. -/
structure CreateOpts where
  name : String
  flavorRef : String
  imageRef : String
  networks : List ServerNetwork
  securityGroups : List String
  metadata : List (String × String)
  userData : List UInt8
  availabilityZone : String
  configDrive : Option Bool
  deriving DecidableEq, Repr

/-- `servers.CreateOptsBuilder`: the base request and the extension layers wrapped around it
(`keypairs`, `schedulerhints`, `bootfromvolume`), innermost first. -/
inductive CreateOptsBuilder where
  | base (opts : CreateOpts)
  | keypairs (builder : CreateOptsBuilder) (keyName : String)
  | schedulerHints (builder : CreateOptsBuilder) (group : String)
  | bootFromVolume (builder : CreateOptsBuilder) (blockDevice : List BlockDevice)
  deriving DecidableEq, Repr

/-- The base layer under all extensions. -/
def CreateOptsBuilder.opts : CreateOptsBuilder → CreateOpts
  | .base opts => opts
  | .keypairs builder _ | .schedulerHints builder _ | .bootFromVolume builder _ => builder.opts

/-- `servers.ListOpts`; only the name filter is used. -/
structure ServerListOpts where
  name : String
  deriving DecidableEq, Repr

/-- `ports.CreateOpts`. -/
structure PortCreateOpts where
  name : String
  networkID : String
  fixedIPs : List IP
  allowedAddressPairs : List AddressPair
  securityGroups : List String
  deriving DecidableEq, Repr

/-- `ports.UpdateOpts`; only the allowed address pairs are set. -/
structure PortUpdateOpts where
  allowedAddressPairs : List AddressPair
  deriving DecidableEq, Repr

/-- `ports.ListOpts`; only the device filter is used. -/
structure PortListOpts where
  deviceID : String
  deriving DecidableEq, Repr

/-- One call of the executor to the Compute or the Network client. -/
inductive Call where
  | getServer (id : String)
  | listServers (opts : ServerListOpts)
  | createServer (opts : CreateOptsBuilder)
  | bootFromVolume (opts : CreateOptsBuilder)
  | deleteServer (id : String)
  | imageIDFromName (name : String)
  | flavorIDFromName (name : String)
  | getSubnet (id : String)
  | groupIDFromName (name : String)
  | createPort (opts : PortCreateOpts)
  | updatePort (id : String) (opts : PortUpdateOpts)
  | deletePort (id : String)
  | listPorts (opts : PortListOpts)
  | networkIDFromName (name : String)
  | portIDFromName (name : String)
  deriving DecidableEq, Repr

/-- What a successful call returns. The subnet record of `GetSubnet` is discarded by the
executor and is left out. -/
@[reducible] def Call.Result : Call → Type
  | .getServer _ | .createServer _ | .bootFromVolume _ => Server
  | .listServers _ => List Server
  | .deleteServer _ | .getSubnet _ | .updatePort _ _ | .deletePort _ => Unit
  | .imageIDFromName _ | .flavorIDFromName _ | .groupIDFromName _ | .networkIDFromName _
  | .portIDFromName _ => String
  | .createPort _ => Port
  | .listPorts _ => List Port

/-- The calls that change the provider's servers or ports. -/
def Call.mutates : Call → Bool
  | .createServer _ | .bootFromVolume _ | .deleteServer _ | .createPort _ | .updatePort _ _
  | .deletePort _ => true
  | _ => false

/-- A call together with the client's answer to it. -/
def Event := Σ c : Call, Except ClientError c.Result

/-- The server a call deletes, if it is a `DeleteServer`. -/
def Call.deletedServer? : Call → Option String
  | .deleteServer id => some id
  | _ => none

/-- The port a call deletes, if it is a `DeletePort`. -/
def Call.deletedPort? : Call → Option String
  | .deletePort id => some id
  | _ => none

/-- The servers a trace asks the Compute client to delete, in order. -/
def deletedServers (trace : List Event) : List String := trace.filterMap (·.1.deletedServer?)

/-- The ports a trace asks the Network client to delete, in order. -/
def deletedPorts (trace : List Event) : List String := trace.filterMap (·.1.deletedPort?)

@[simp] theorem deletedServers_nil : deletedServers [] = [] := rfl

@[simp] theorem deletedServers_append (t₁ t₂ : List Event) :
    deletedServers (t₁ ++ t₂) = deletedServers t₁ ++ deletedServers t₂ := by
  simp [deletedServers]

@[simp] theorem deletedPorts_nil : deletedPorts [] = [] := rfl

@[simp] theorem deletedPorts_append (t₁ t₂ : List Event) :
    deletedPorts (t₁ ++ t₂) = deletedPorts t₁ ++ deletedPorts t₂ := by
  simp [deletedPorts]

/-- The create request of a call that submits a server. -/
def Call.submission? : Call → Option CreateOptsBuilder
  | .createServer opts | .bootFromVolume opts => some opts
  | _ => none

/-- The server the provider accepted, for a submission answered with success. -/
def Event.acceptedServer? : Event → Option Server
  | ⟨.createServer _, .ok server⟩ | ⟨.bootFromVolume _, .ok server⟩ => some server
  | _ => none

/-- The create requests a trace submits, in order. -/
def submissions (trace : List Event) : List CreateOptsBuilder := trace.filterMap (·.1.submission?)

/-- The servers the provider accepted in a trace, in order. -/
def acceptedServers (trace : List Event) : List Server := trace.filterMap Event.acceptedServer?

/-- A server the provider accepted answers a `CreateServer` or `BootFromVolume` call of the
trace. -/
theorem mem_acceptedServers {trace : List Event} {server : Server}
    (h : server ∈ acceptedServers trace) :
    (∃ opts, (⟨.createServer opts, .ok server⟩ : Event) ∈ trace) ∨
      ∃ opts, (⟨.bootFromVolume opts, .ok server⟩ : Event) ∈ trace := by
  obtain ⟨⟨c, r⟩, he, hacc⟩ := List.mem_filterMap.mp h
  cases c <;> cases r <;> simp only [Event.acceptedServer?, Option.some.injEq, reduceCtorEq] at hacc
  exacts [.inl ⟨_, hacc ▸ he⟩, .inr ⟨_, hacc ▸ he⟩]

@[simp] theorem submissions_nil : submissions [] = [] := rfl

@[simp] theorem acceptedServers_nil : acceptedServers [] = [] := rfl

@[simp] theorem submissions_append (t₁ t₂ : List Event) :
    submissions (t₁ ++ t₂) = submissions t₁ ++ submissions t₂ := by
  simp [submissions]

@[simp] theorem acceptedServers_append (t₁ t₂ : List Event) :
    acceptedServers (t₁ ++ t₂) = acceptedServers t₁ ++ acceptedServers t₂ := by
  simp [acceptedServers]

end OpenStackExecutor
