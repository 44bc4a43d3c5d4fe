import OpenStackExecutor.DeleteSafety

/-!
# How `CreateMachine` ends, and what a failed one leaves behind

The create state machine of spec §4.5: resolve the networks, submit one server, wait until it is
`ACTIVE`, patch its ports; a failure after the provider accepted the server runs `deleteOnFail`,
which cleans up through `DeleteMachine`. A failure before the submission returns without any
deletion, although `computeServerNetworks` may already have pre-allocated a port in the
configured subnet; and when the submitted server is gone before the rollback looks it up,
`DeleteMachine` reports success without releasing the port.

Against the reference provider the identifier of a created server decodes back to it, so the
rollback deletes nothing but the server the run created, and `DeleteMachine` given the
identifier `CreateMachine` returned deletes nothing else either.
-/

namespace OpenStackExecutor

open Prog

variable {σ : Type} (answer : σ → (c : Call) → Except ClientError c.Result × σ)
  (pre : Prefixes) (spec : MachineProviderConfigSpec)

/-- A run of `DeleteMachine` that deletes a port has deleted a server: the port is released
only after the located server was deleted. -/
theorem deleteMachine_deletes_server_of_port {s : σ} {machineName providerID : String} {e : Event}
    (he : e ∈ (run answer s (deleteMachine pre spec machineName providerID)).trace)
    (hport : e.1.deletedPort? ≠ none) :
    deletedServers (run answer s (deleteMachine pre spec machineName providerID)).trace ≠ [] := by
  have hlookup : e ∈ (run answer s (lookupMachine pre spec machineName providerID)).trace →
      e.1.deletedPort? = none := fun he =>
    ((lookupMachine_readOnly pre spec machineName providerID).trace s e he).noDeletion.2
  rw [deleteMachine_run] at he ⊢
  cases hr : (run answer s (lookupMachine pre spec machineName providerID)).result with
  | error err =>
    simp only [hr] at he
    exact absurd (hlookup he) hport
  | ok server =>
    simp [hr, deleteFoundServer, deletedServers, Call.deletedServer?]

/-! ## The phases of a run -/

/-- **How a `CreateMachine` run ends** (spec §4.2, §4.5), whatever the clients answer. It submits
at most one server. Either the provider accepted none, and the run fails having deleted nothing;
or it accepted one server `created`, and the run either returns `created`'s encoded identifier
having deleted nothing, or fails after the wait or the port patch and ends with one whole run of
`DeleteMachine` for that identifier, before which it deleted nothing. The error is then the
original one when the rollback succeeded, and otherwise the rollback's error followed by the
original one. -/
theorem createMachine_ends (s : σ) (machineName : String) (userData : List UInt8) :
    (submissions (run answer s (createMachine pre spec machineName userData)).trace).length ≤ 1 ∧
    let o := run answer s (createMachine pre spec machineName userData)
    ((acceptedServers o.trace = [] ∧ (∃ err, o.result = .error err) ∧
        deletedServers o.trace = [] ∧ deletedPorts o.trace = []) ∨
      ∃ created, acceptedServers o.trace = [created] ∧
        ((o.result = .ok (encodeProviderID spec.region created.id) ∧
            deletedServers o.trace = [] ∧ deletedPorts o.trace = []) ∨
          ∃ pfx s' cause,
            let rollback := run answer s' (deleteMachine pre spec machineName
              (encodeProviderID spec.region created.id))
            o.trace = pfx ++ rollback.trace ∧ deletedServers pfx = [] ∧ deletedPorts pfx = [] ∧
            (∃ err, cause = .wrapf ("error waiting for server " ++ "[ID=" ++ quoted created.id ++
                "] to reach target status: ") err "" ∨
              cause = .errorf ("failed to patch server " ++ "[ID=" ++ quoted created.id ++
                "] ports: ") err "") ∧
            o.result = .error (match rollback.result with
              | .ok () => cause
              | .error errIn => .wrapfWith ("error deleting server [ID=" ++ quoted created.id ++
                  "] after unsuccessful creation attempt: ") errIn ". Original error: " cause))) :=
  createMachine_phases answer pre spec s machineName userData

/-! ## Failures that leave resources behind -/

/-- A provider without the sample image. -/
def noImageCloud : Cloud := { sampleCloud [] with images := [] }

/-- A schedule under which the provider loses server `server-4` before the first status poll of
a create run that pre-allocates a port. -/
def vanishing : Nat → Turn := fun i => ⟨if i = 5 then [.purge "server-4"] else [], none, i⟩

/-- The port `computeServerNetworks` pre-allocates for machine `m` on the sample provider. -/
def preallocatedPort : Port :=
  { id := "port-1", name := "m", networkID := "net", deviceID := "", fixedIPs := [⟨"sub"⟩],
    allowedAddressPairs := [⟨"100.96.0.0/11"⟩], securityGroups := [], preserveOnDelete := true }

/-- `CreateMachine` releases a port only in a run that also deleted a server, whatever the
clients answer. So the port pre-allocated by `computeServerNetworks` stays when the run fails
before submitting a server, and when the rollback's lookup finds the server already gone. -/
theorem createMachine_releases_port_only_with_server (s : σ) (machineName : String)
    (userData : List UInt8)
    (hkept : deletedServers (run answer s (createMachine pre spec machineName userData)).trace = []) :
    deletedPorts (run answer s (createMachine pre spec machineName userData)).trace = [] := by
  refine List.filterMap_eq_nil_iff.mpr fun e he => ?_
  by_contra hport
  obtain ⟨created, s', -, hsub, he'⟩ :=
    createMachine_deletion_source answer pre spec he fun h => hport h.2
  obtain ⟨id, hid⟩ := List.exists_mem_of_ne_nil _
    (deleteMachine_deletes_server_of_port answer pre spec he' hport)
  obtain ⟨e', he'', hdel⟩ := List.mem_filterMap.mp hid
  simp [List.filterMap_eq_nil_iff.mp hkept e' (hsub he'')] at hdel

/-- The server vanishes during the build: the rollback deletes no server, and no port. -/
theorem createMachine_vanished_server_keeps_port :
    deletedServers (run (Cloud.respond vanishing) (sampleCloud [], 0)
        (createMachine samplePrefixes (sampleSpec sampleTags (some "sub")) "m" [])).trace = [] ∧
      deletedPorts (run (Cloud.respond vanishing) (sampleCloud [], 0)
        (createMachine samplePrefixes (sampleSpec sampleTags (some "sub")) "m" [])).trace = [] :=
  have hkept : deletedServers (run (Cloud.respond vanishing) (sampleCloud [], 0)
      (createMachine samplePrefixes (sampleSpec sampleTags (some "sub")) "m" [])).trace = [] := by
    decide
  ⟨hkept, createMachine_releases_port_only_with_server (Cloud.respond vanishing) samplePrefixes
    (sampleSpec sampleTags (some "sub")) (sampleCloud [], 0) "m" [] hkept⟩

/-- Two failing `CreateMachine` runs for machine `m` with network `net` and subnet `sub`, both
with an error other than the rollback-failure error, on a provider without ports: without the
image, deployment fails after the port was pre-allocated; when the submitted server vanishes
during the build, the rollback finds it gone and reports success. Both runs leave the
pre-allocated port behind. -/
theorem createMachine_leaves_port_behind :
    noImageCloud.ports = [] ∧
      (Cloud.run quiet noImageCloud
          (createMachine samplePrefixes (sampleSpec sampleTags (some "sub")) "m" [])).result =
        .error (.wrapf ("failed to deploy server for machine " ++ quoted "m" ++ ": ")
          (.errorf ("error resolving image ID from image name " ++ quoted "image" ++ ": ")
            (.client (.notFound "Unable to find image")) "") "") ∧
      (Cloud.run quiet noImageCloud
          (createMachine samplePrefixes (sampleSpec sampleTags (some "sub")) "m" [])).state.1.ports =
        [preallocatedPort] ∧
      (sampleCloud []).ports = [] ∧
      (Cloud.run vanishing (sampleCloud [])
          (createMachine samplePrefixes (sampleSpec sampleTags (some "sub")) "m" [])).result =
        .error (.wrapf ("error waiting for server [ID=" ++ quoted "server-4" ++
          "] to reach target status: ") (.client (.notFound "server server-4")) "") ∧
      (Cloud.run vanishing (sampleCloud [])
          (createMachine samplePrefixes (sampleSpec sampleTags (some "sub")) "m" [])).state.1.ports =
        [preallocatedPort] := by
  decide

/-! ## What the identifier of a created server designates -/

/-- A server the reference provider accepted in a run has an identifier without `/`. -/
theorem accepted_id_no_slash {α : Type} {sched : Nat → Turn} {st : Cloud × Nat} {p : Prog α}
    {created : Server} (h : created ∈ acceptedServers (run (Cloud.respond sched) st p).trace) :
    '/' ∉ created.id.toList := by
  rcases mem_acceptedServers h with ⟨_, he⟩ | ⟨_, he⟩ <;>
    obtain ⟨_, hans⟩ := mem_trace_answered _ _ _ he
  exacts [(Cloud.respond_boot_id_ne (.inl hans)).2, (Cloud.respond_boot_id_ne (.inr hans)).2]

/-- Against the reference provider, `DeleteMachine` given the encoded identifier of an id without
`/` deletes no server but the one of that id. -/
theorem deleteMachine_encoded_deletes_only {sched : Nat → Turn} {st : Cloud × Nat}
    {machineName id id' : String} (hslash : '/' ∉ id.toList)
    (hid' : id' ∈ deletedServers (run (Cloud.respond sched) st
      (deleteMachine pre spec machineName (encodeProviderID spec.region id))).trace) :
    id' = id := by
  obtain ⟨server, -, -, hbyID, -⟩ := deleteMachine_deletes_owned pre spec hid'
  rw [(hbyID (encodeProviderID_ne_empty _ _)).1, decodeProviderID_encodeProviderID _ _ hslash]

/-- A server a `CreateMachine` run deletes is one the provider accepted from the run. -/
theorem createMachine_deleted_accepted {sched : Nat → Turn} {st : Cloud × Nat}
    {machineName : String} {userData : List UInt8} {id : String}
    (hid : id ∈ deletedServers
      (run (Cloud.respond sched) st (createMachine pre spec machineName userData)).trace) :
    ∃ created ∈ acceptedServers
      (run (Cloud.respond sched) st (createMachine pre spec machineName userData)).trace,
      created.id = id := by
  obtain ⟨e, he, hdeleted⟩ := List.mem_filterMap.mp hid
  obtain ⟨created, st', hcreated, -, he'⟩ := createMachine_deletion_source _ pre spec he
    (not_noDeletion_of_deletedServer hdeleted)
  have hacc : created ∈ acceptedServers
      (run (Cloud.respond sched) st (createMachine pre spec machineName userData)).trace := by
    rcases hcreated with ⟨_, h⟩ | ⟨_, h⟩ <;> exact List.mem_filterMap.mpr ⟨_, h, rfl⟩
  exact ⟨created, hacc, (deleteMachine_encoded_deletes_only pre spec (accepted_id_no_slash hacc)
    (List.mem_filterMap.mpr ⟨e, he', hdeleted⟩)).symm⟩

/-- **The rollback deletes only the created server.** Against the reference provider, under
every schedule, every server a `CreateMachine` run deletes is one the provider accepted from the
run's own submission: the rollback looks the server up by its encoded identifier, which decodes
to the identifier the provider gave it. -/
theorem createMachine_deletes_only_created (sched : Nat → Turn) (st : Cloud × Nat)
    (machineName : String) (userData : List UInt8) :
    ∀ id ∈ deletedServers
        (run (Cloud.respond sched) st (createMachine pre spec machineName userData)).trace,
      id ∈ (acceptedServers
        (run (Cloud.respond sched) st (createMachine pre spec machineName userData)).trace).map
          (·.id) := fun _ hid => by
  obtain ⟨created, hacc, rfl⟩ := createMachine_deleted_accepted pre spec hid
  exact List.mem_map_of_mem _ hacc

/-- A schedule under which `server-2` goes to `ERROR` before call 3 and its deletion finishes
before call 6, and no call fails. -/
def failedBuild : Nat → Turn := fun j =>
  ⟨if j = 3 then [.setStatus "server-2" serverStatusError]
    else if j = 6 then [.purge "server-2"] else [], none, j⟩

/-- Machine `m`, submitted as `server-2`, ends in `ERROR`; the rollback deletes `server-2`, the
server the run submitted. -/
theorem createMachine_rollback_sample :
    "server-2" ∈ deletedServers (run (Cloud.respond failedBuild) (sampleCloud [], 0)
        (createMachine samplePrefixes (sampleSpec sampleTags none) "m" [])).trace ∧
      "server-2" ∈ (acceptedServers (run (Cloud.respond failedBuild) (sampleCloud [], 0)
        (createMachine samplePrefixes (sampleSpec sampleTags none) "m" [])).trace).map (·.id) :=
  have h : "server-2" ∈ deletedServers (run (Cloud.respond failedBuild) (sampleCloud [], 0)
      (createMachine samplePrefixes (sampleSpec sampleTags none) "m" [])).trace := by decide
  ⟨h, createMachine_deletes_only_created samplePrefixes (sampleSpec sampleTags none) failedBuild
    (sampleCloud [], 0) "m" [] "server-2" h⟩

/-- **The returned identifier designates the created server.** Against the reference provider,
when `CreateMachine` returns `p`, the provider accepted exactly one server from the run, `p` is
that server's encoded identifier, and a later `DeleteMachine` given `p`, for any machine name,
from any records and under any schedule, deletes no other server. -/
theorem createMachine_identifier_designates_created (sched₁ sched₂ : Nat → Turn)
    (st st' : Cloud × Nat) (machineName machineName' : String) (userData : List UInt8) (p : String)
    (hcreate : (run (Cloud.respond sched₁) st
      (createMachine pre spec machineName userData)).result = .ok p) :
    ∃ created, acceptedServers (run (Cloud.respond sched₁) st
        (createMachine pre spec machineName userData)).trace = [created] ∧
      p = encodeProviderID spec.region created.id ∧
      ∀ id ∈ deletedServers (run (Cloud.respond sched₂) st'
        (deleteMachine pre spec machineName' p)).trace, id = created.id := by
  obtain ⟨-, ⟨-, ⟨err, herr⟩, -⟩ | ⟨created, hacc, ⟨hok, -⟩ | ⟨pfx, s', cause, -, -, -, -, herr⟩⟩⟩ :=
    createMachine_phases (Cloud.respond sched₁) pre spec st machineName userData
  · rw [hcreate] at herr
    cases herr
  · rw [hcreate, Except.ok.injEq] at hok
    subst hok
    exact ⟨created, hacc, rfl, fun id hid => deleteMachine_encoded_deletes_only pre spec
      (accepted_id_no_slash (hacc ▸ List.mem_singleton_self created)) hid⟩
  · rw [hcreate] at herr
    cases herr

/-- Machine `m` created as `server-2` is deleted through the returned identifier, and only
`server-2` can be deleted through it. -/
theorem createMachine_identifier_sample :
    ∃ created, acceptedServers (run (Cloud.respond (activeAt "server-2" 3)) (sampleCloud [], 0)
        (createMachine samplePrefixes (sampleSpec sampleTags none) "m" [])).trace = [created] ∧
      "openstack:///region/server-2" = encodeProviderID "region" created.id ∧
      ∀ id ∈ deletedServers (run (Cloud.respond quiet)
        ((run (Cloud.respond (activeAt "server-2" 3)) (sampleCloud [], 0)
          (createMachine samplePrefixes (sampleSpec sampleTags none) "m" [])).state.1, 0)
        (deleteMachine samplePrefixes (sampleSpec sampleTags none) "m"
          "openstack:///region/server-2")).trace, id = created.id :=
  createMachine_identifier_designates_created samplePrefixes (sampleSpec sampleTags none)
    (activeAt "server-2" 3) quiet (sampleCloud [], 0) _ "m" "m" [] _ (by decide)

end OpenStackExecutor
