import OpenStackExecutor.Program
import OpenStackExecutor.Config

/-!
# A reference provider

The provider behind the two clients, as the spec describes it (§3, §5): it answers each call
from its current servers and ports, one call at a time, and between calls it may change a
server's status or finish a deletion on its own. A schedule says, for the `i`-th call, what the
provider did before answering, whether the call failed, and which id a new server or port
receives. Every pattern of success and failure is a schedule.
-/

namespace OpenStackExecutor

/-- The provider's records and catalogues. A catalogue lists `(name, id)` pairs. -/
structure Cloud where
  servers : List Server
  ports : List Port
  subnets : List String
  images : List (String × String)
  flavors : List (String × String)
  networks : List (String × String)
  securityGroups : List (String × String)

namespace Cloud

/-- The `IDFromName` helpers of the clients: exactly one entry of that name is its id; none is
not found; several are an error of another kind. -/
def idFromName (catalogue : List (String × String)) (name : String) :
    Except ClientError String :=
  match catalogue.filter (·.1 == name) with
  | [] => .error (.notFound ("Unable to find " ++ name))
  | [(_, id)] => .ok id
  | _ => .error (.failed ("Found multiple resources matching " ++ name))

/-- The ports after booting server `id` on the given attachments: a pre-allocated port is bound
to the server, every other attachment gets a port of its own, deleted with the server. -/
def attach (id : String) (index : Nat) (ports : List Port) : List ServerNetwork → List Port
  | [] => ports
  | nw :: nws =>
    if nw.port = "" then
      attach id (index + 1)
        (ports ++ [{ id := id ++ "-port-" ++ toString index, name := "", networkID := nw.uuid,
                     deviceID := id, fixedIPs := [], allowedAddressPairs := [],
                     securityGroups := [], preserveOnDelete := false }]) nws
    else
      attach id (index + 1)
        (ports.map fun p => if p.id = nw.port then { p with deviceID := id } else p) nws

/-- Submitting a server: it appears in `BUILD` with the requested name and metadata. -/
def boot (s : Cloud) (fresh : Nat) (opts : CreateOptsBuilder) : Except ClientError Server × Cloud :=
  if opts.opts.networks.all fun nw => nw.port = "" || s.ports.any (·.id == nw.port) then
    let server : Server := ⟨"server-" ++ toString fresh, opts.opts.name, serverStatusBuild,
      opts.opts.metadata, ⟨0, "", "", ""⟩⟩
    (.ok server, { s with servers := s.servers ++ [server],
                          ports := attach server.id 0 s.ports opts.opts.networks })
  else (.error (.failed "port not found"), s)

/-- The provider's answer to one call, and its records afterwards. `fresh` numbers a server or
port created by the call. Deleting a server only accepts the request: the server goes away when
the provider finishes the deletion (`Drift.purge`). -/
def answer (s : Cloud) (fresh : Nat) : (c : Call) → Except ClientError c.Result × Cloud
  | .getServer id =>
    (match s.servers.find? (·.id == id) with
      | some server => .ok server
      | none => .error (.notFound ("server " ++ id)), s)
  | .listServers opts => (.ok (s.servers.filter fun server => stringsContains server.name opts.name), s)
  | .createServer opts => s.boot fresh opts
  | .bootFromVolume opts => s.boot fresh opts
  | .deleteServer id =>
    (if s.servers.any (·.id == id) then .ok () else .error (.notFound ("server " ++ id)), s)
  | .imageIDFromName name => (idFromName s.images name, s)
  | .flavorIDFromName name => (idFromName s.flavors name, s)
  | .getSubnet id => (if id ∈ s.subnets then .ok () else .error (.notFound ("subnet " ++ id)), s)
  | .groupIDFromName name => (idFromName s.securityGroups name, s)
  | .createPort opts =>
    let port : Port :=
      { id := "port-" ++ toString fresh, name := opts.name, networkID := opts.networkID,
        deviceID := "", fixedIPs := opts.fixedIPs, allowedAddressPairs := opts.allowedAddressPairs,
        securityGroups := opts.securityGroups, preserveOnDelete := true }
    (.ok port, { s with ports := s.ports ++ [port] })
  | .updatePort id opts =>
    if s.ports.any (·.id == id) then
      (.ok (), { s with ports := s.ports.map fun p =>
        if p.id = id then { p with allowedAddressPairs := opts.allowedAddressPairs } else p })
    else (.error (.notFound ("port " ++ id)), s)
  | .deletePort id =>
    if s.ports.any (·.id == id) then (.ok (), { s with ports := s.ports.filter (·.id != id) })
    else (.error (.notFound ("port " ++ id)), s)
  | .listPorts opts =>
    (.ok (if opts.deviceID = "" then s.ports else s.ports.filter (·.deviceID == opts.deviceID)), s)
  | .networkIDFromName name => (idFromName s.networks name, s)
  | .portIDFromName name => (idFromName (s.ports.map fun p => (p.name, p.id)) name, s)

end Cloud

/-- A change the provider makes on its own between two calls. -/
inductive Drift where
  /-- A server moves to a new status (`ACTIVE` after building, `ERROR`, `DELETED`, ...). -/
  | setStatus (id status : String)
  /-- A deletion finishes: the server disappears, the ports created for it are deleted and the
  pre-allocated ones released. -/
  | purge (id : String)
  deriving DecidableEq, Repr

namespace Cloud

/-- The records after one provider-side change. -/
def drift (s : Cloud) : Drift → Cloud
  | .setStatus id status =>
    { s with servers := s.servers.map fun server =>
        if server.id = id then { server with status := status } else server }
  | .purge id =>
    { s with servers := s.servers.filter (·.id != id),
             ports := s.ports.filterMap fun p =>
               if p.deviceID = id then
                 if p.preserveOnDelete then some { p with deviceID := "" } else none
               else some p }

end Cloud

/-- What happens at one call: the provider's own changes before it answers, a failure of the
call (without effect) or not, and the number a created server or port receives. -/
structure Turn where
  drift : List Drift
  fault : Option String
  fresh : Nat

/-- A schedule never fails a call. -/
def Reliable (sched : Nat → Turn) : Prop := ∀ i, (sched i).fault = none

/-- A schedule that never fails a call and never changes anything on the provider's side. -/
def Steady (sched : Nat → Turn) : Prop := ∀ i, (sched i).drift = [] ∧ (sched i).fault = none

namespace Cloud

/-- The provider answering call number `i` of a run under schedule `sched`. -/
def respond (sched : Nat → Turn) (st : Cloud × Nat) (c : Call) :
    Except ClientError c.Result × (Cloud × Nat) :=
  match (sched st.2).fault with
  | some msg => (.error (.failed msg), ((sched st.2).drift.foldl drift st.1, st.2 + 1))
  | none =>
    (((sched st.2).drift.foldl drift st.1).answer (sched st.2).fresh c).map id
      fun s => (s, st.2 + 1)

/-- A run of an executor method against the provider, from call number `0`. -/
def run {α : Type} (sched : Nat → Turn) (s : Cloud) (p : Prog α) : Prog.Outcome (Cloud × Nat) α :=
  Prog.run (respond sched) (s, 0) p

/-- The provider answers `GetServer id` with a server whose identifier is `id`. -/
theorem respond_getServer_id {sched : Nat → Turn} {st : Cloud × Nat} {id : String}
    {server : Server} (h : (respond sched st (.getServer id)).1 = .ok server) : server.id = id := by
  unfold respond at h
  split at h
  · cases h
  · simp only [answer, Prod.map_fst, id_eq] at h
    split at h
    next hfind => cases h; simpa using List.find?_some hfind
    next => cases h

/-- A server the provider boots receives a non-empty identifier. -/
theorem boot_id_ne {s : Cloud} {fresh : Nat} {opts : CreateOptsBuilder} {server : Server}
    (h : (s.boot fresh opts).1 = .ok server) : server.id ≠ "" := by
  unfold boot at h
  split at h
  · cases h
    intro hid
    simpa using congrArg String.data hid
  · cases h

theorem digitChar_ne_slash : ∀ d < 10, Nat.digitChar d ≠ '/' := by decide

theorem toDigitsCore_no_slash (fuel n : Nat) (ds : List Char) (hds : '/' ∉ ds) :
    '/' ∉ Nat.toDigitsCore 10 fuel n ds := by
  induction fuel generalizing n ds with
  | zero => exact hds
  | succ fuel ih =>
    have hdigit := digitChar_ne_slash (n % 10) (Nat.mod_lt _ (by decide))
    show '/' ∉ if n / 10 = 0 then Nat.digitChar (n % 10) :: ds
      else Nat.toDigitsCore 10 fuel (n / 10) (Nat.digitChar (n % 10) :: ds)
    split
    · exact List.not_mem_cons_of_ne_of_not_mem hdigit.symm hds
    · exact ih _ _ (List.not_mem_cons_of_ne_of_not_mem hdigit.symm hds)

/-- A server the provider boots receives an identifier without `/`: the decimal digits of its
number after `server-`. -/
theorem boot_id_no_slash {s : Cloud} {fresh : Nat} {opts : CreateOptsBuilder} {server : Server}
    (h : (s.boot fresh opts).1 = .ok server) : '/' ∉ server.id.toList := by
  unfold boot at h
  split at h
  · cases h
    show '/' ∉ ("server-" ++ toString fresh).data
    rw [String.data_append]
    exact List.not_mem_append (by decide) (toDigitsCore_no_slash (fresh + 1) fresh [] nofun)
  · cases h

/-- A booted server carries the requested name and metadata. -/
theorem boot_request {s : Cloud} {fresh : Nat} {opts : CreateOptsBuilder} {server : Server}
    (h : (s.boot fresh opts).1 = .ok server) :
    server.name = opts.opts.name ∧ server.metadata = opts.opts.metadata := by
  unfold boot at h
  split at h
  · cases h
    exact ⟨rfl, rfl⟩
  · cases h

theorem respond_boot_request {sched : Nat → Turn} {st : Cloud × Nat} {opts : CreateOptsBuilder}
    {server : Server} (h : (respond sched st (.createServer opts)).1 = .ok server ∨
      (respond sched st (.bootFromVolume opts)).1 = .ok server) :
    server.name = opts.opts.name ∧ server.metadata = opts.opts.metadata := by
  unfold respond at h
  split at h
  · simp at h
  · exact h.elim boot_request boot_request

theorem respond_boot_id_ne {sched : Nat → Turn} {st : Cloud × Nat} {opts : CreateOptsBuilder}
    {server : Server} (h : (respond sched st (.createServer opts)).1 = .ok server ∨
      (respond sched st (.bootFromVolume opts)).1 = .ok server) :
    server.id ≠ "" ∧ '/' ∉ server.id.toList := by
  unfold respond at h
  split at h
  · simp at h
  · exact h.elim (fun h => ⟨boot_id_ne h, boot_id_no_slash h⟩) fun h => ⟨boot_id_ne h, boot_id_no_slash h⟩

end Cloud

/-! ## Sample records for concrete runs -/

/-- Sample tag-name prefixes. -/
def samplePrefixes : Prefixes := ⟨"cluster-", "role-", by decide, by decide⟩

/-- A schedule under which the provider never fails a call and changes nothing on its own; a
created record is numbered by its call. -/
def quiet : Nat → Turn := fun i => ⟨[], none, i⟩

/-- A schedule under which server `id` becomes `ACTIVE` before call `i`, and no call fails. -/
def activeAt (id : String) (i : Nat) : Nat → Turn :=
  fun j => ⟨if j = i then [.setStatus id "ACTIVE"] else [], none, j⟩

/-- A machine class for network `net` with the given tags, subnet and pod networks. -/
def sampleSpec (tags : GoMap) (subnetID : Option String) : MachineProviderConfigSpec :=
  { region := "region", networkID := "net", subnetID := subnetID, networks := [],
    securityGroups := [], keyName := "key", imageName := "image", imageID := "",
    availabilityZone := "zone", flavorName := "small", tags := tags, rootDiskSize := 0,
    useConfigDrive := none, serverGroupID := none, podNetworkCidr := "100.96.0.0/11" }

/-- Tags naming cluster `shoot` and role `node` under the sample prefixes. -/
def sampleTags : GoMap := ⟨[("cluster-shoot", "1"), ("role-node", "1")], by decide⟩

/-- A server record without a fault. -/
def sampleServer (id name status : String) (metadata : List (String × String)) : Server :=
  ⟨id, name, status, metadata, ⟨0, "", "", ""⟩⟩

/-- A provider with the given servers, subnet `sub`, image `image` and flavor `small`. -/
def sampleCloud (servers : List Server) : Cloud :=
  ⟨servers, [], ["sub"], [("image", "image-id")], [("small", "small-id")], [], []⟩

end OpenStackExecutor
