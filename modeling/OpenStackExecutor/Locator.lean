import OpenStackExecutor.Executor.Lifecycle
import OpenStackExecutor.Cloud.Model

/-!
# The instance locator

`getMachineByName` and `getMachineByProviderID` against any answering client (spec §4.4): the
name lookup selects exactly one owned server of whatever the name filter lists, and the lookup
by identifier accepts only the decoded server carrying both ownership tags. `ListMachines`
enumerates the owned servers of one listing into a Go map.
-/

namespace OpenStackExecutor

variable {σ : Type} (answer : σ → (c : Call) → Except ClientError c.Result × σ)
  (pre : Prefixes) (spec : MachineProviderConfigSpec)

@[simp] theorem Error.is_errNotFound_self : Error.errNotFound.is .errNotFound = true := by
  simp [Error.is]

/-- `getMachineByName` once both tag names are found: one `ListServers` call, whose answer
decides the result. -/
theorem getMachineByName_run_found (s : σ) (machineName : String)
    (hfound : (searchTags pre spec.tags.entries).found = true) :
    Prog.run answer s (getMachineByName pre spec machineName) =
      ⟨match (answer s (.listServers ⟨machineName⟩)).1 with
        | .error err => .error (.client err)
        | .ok listed =>
          match matchingServers machineName (searchTags pre spec.tags.entries) listed with
          | [] => .error (.wrapf ("failed to find server [Name=" ++ quoted machineName ++ "]: ")
              .errNotFound "")
          | [server] => .ok server
          | _ :: _ :: _ => .error (.wrapf ("failed to find server [Name=" ++ quoted machineName ++
              "]: ") .errMultipleFound ""),
        (answer s (.listServers ⟨machineName⟩)).2,
        [⟨.listServers ⟨machineName⟩, (answer s (.listServers ⟨machineName⟩)).1⟩]⟩ := by
  simp only [getMachineByName, hfound, Bool.not_true, Bool.false_eq_true, if_false,
    Prog.bind_eq, Compute.listServers, Prog.ask, Prog.call_bind, Prog.pure_bind, Prog.run_call]
  cases (answer s (.listServers ⟨machineName⟩)).1 with
  | error err => rfl
  | ok listed =>
    rcases hM : matchingServers machineName (searchTags pre spec.tags.entries) listed with
      _ | ⟨server, _ | ⟨other, rest⟩⟩ <;> simp [hM]

/-- **Exactly one owned server** (spec §4.4). When both tag names are found, for every list the
name filter returns (near-miss names included), with `M` the listed servers of exactly that name
carrying both tags: the lookup returns a server iff `M` is that server alone, an error wrapping
`ErrMultipleFound` iff `M` has two or more servers, and an error wrapping `ErrNotFound` iff `M`
is empty. -/
theorem getMachineByName_selects_unique (s : σ) (machineName : String) (listed : List Server)
    (hfound : (searchTags pre spec.tags.entries).found = true)
    (hlisted : (answer s (.listServers ⟨machineName⟩)).1 = .ok listed) (M : List Server)
    (hM : M = listed.filter fun server => server.name == machineName &&
      hasKey server.metadata (searchTags pre spec.tags.entries).searchClusterName &&
      hasKey server.metadata (searchTags pre spec.tags.entries).searchNodeRole) :
    (∀ server, (Prog.run answer s (getMachineByName pre spec machineName)).result = .ok server ↔
      M = [server]) ∧
    ((∃ err, (Prog.run answer s (getMachineByName pre spec machineName)).result = .error err ∧
        err.is .errMultipleFound = true) ↔ 2 ≤ M.length) ∧
    ((∃ err, (Prog.run answer s (getMachineByName pre spec machineName)).result = .error err ∧
        err.is .errNotFound = true) ↔ M = []) := by
  have hmatching : M = matchingServers machineName (searchTags pre spec.tags.entries) listed := by
    rw [hM, matchingServers]
    simp only [TagKeys.matches, Bool.and_assoc]
  rw [getMachineByName_run_found answer pre spec s machineName hfound, hlisted, hmatching]
  rcases hM' : matchingServers machineName (searchTags pre spec.tags.entries) listed with
    _ | ⟨server, _ | ⟨other, rest⟩⟩ <;> simp [hM', Error.is]

/-- Two owned servers named `m` and an owned near miss `m-2`, all listed for the filter `m`. -/
def nearMissServers : List Server :=
  [sampleServer "x" "m" "ACTIVE" sampleTags.entries, sampleServer "y" "m" "ACTIVE" sampleTags.entries,
    sampleServer "z" "m-2" "ACTIVE" sampleTags.entries]

/-- The provider lists the near miss with the two servers named `m`: only those two count, and
the lookup reports `ErrMultipleFound`. -/
theorem getMachineByName_near_miss :
    (searchTags samplePrefixes sampleTags.entries).found = true ∧
      (Cloud.respond quiet (sampleCloud nearMissServers, 0) (.listServers ⟨"m"⟩)).1 =
        .ok nearMissServers ∧
      ((∃ err, (Prog.run (Cloud.respond quiet) (sampleCloud nearMissServers, 0)
          (getMachineByName samplePrefixes (sampleSpec sampleTags none) "m")).result = .error err ∧
          err.is .errMultipleFound = true) ↔
        2 ≤ (nearMissServers.filter fun server => server.name == "m" &&
          hasKey server.metadata (searchTags samplePrefixes sampleTags.entries).searchClusterName &&
          hasKey server.metadata (searchTags samplePrefixes sampleTags.entries).searchNodeRole).length) :=
  ⟨by decide, rfl, (getMachineByName_selects_unique (Cloud.respond quiet) samplePrefixes
    (sampleSpec sampleTags none) (sampleCloud nearMissServers, 0) "m" nearMissServers
    (by decide) rfl _ rfl).2.1⟩

/-- `getMachineByProviderID` on a well-formed identifier: one `GetServer` call, whose answer
decides the result. -/
theorem getMachineByProviderID_run (s : σ) (providerID : String)
    (hdecode : decodeProviderID providerID ≠ "") :
    Prog.run answer s (getMachineByProviderID pre spec providerID) =
      ⟨match (answer s (.getServer (decodeProviderID providerID))).1 with
        | .error err => if isNotFoundError err then .error (serverIDNotFound (decodeProviderID providerID))
          else .error (.client err)
        | .ok server => if (searchTags pre spec.tags.entries).matches server.metadata then .ok server
          else .error (serverIDNotFound (decodeProviderID providerID)),
        (answer s (.getServer (decodeProviderID providerID))).2,
        [⟨.getServer (decodeProviderID providerID), (answer s (.getServer (decodeProviderID providerID))).1⟩]⟩ := by
  simp only [getMachineByProviderID, hdecode, if_false, Prog.bind_eq, Compute.getServer, Prog.ask,
    Prog.call_bind, Prog.pure_bind, Prog.run_call]
  cases (answer s (.getServer (decodeProviderID providerID))).1 with
  | error err => by_cases h : isNotFoundError err = true <;> simp [h]
  | ok server =>
    by_cases h : (searchTags pre spec.tags.entries).matches server.metadata = true <;> simp [h]

/-- A server found by identifier is the decoded server, as the client returned it, carrying both
ownership tags; the lookup made exactly that one call. -/
theorem getMachineByProviderID_ok {s : σ} {providerID : String} {server : Server}
    (h : (Prog.run answer s (getMachineByProviderID pre spec providerID)).result = .ok server) :
    decodeProviderID providerID ≠ "" ∧
      (answer s (.getServer (decodeProviderID providerID))).1 = .ok server ∧
      (searchTags pre spec.tags.entries).matches server.metadata = true ∧
      (Prog.run answer s (getMachineByProviderID pre spec providerID)).trace =
        [⟨.getServer (decodeProviderID providerID), .ok server⟩] := by
  by_cases hdecode : decodeProviderID providerID = ""
  · simp [getMachineByProviderID, hdecode] at h
  · rw [getMachineByProviderID_run answer pre spec s providerID hdecode] at h ⊢
    cases hget : (answer s (.getServer (decodeProviderID providerID))).1 with
    | error err => simp only [hget] at h; split_ifs at h
    | ok found =>
      simp only [hget] at h
      split_ifs at h with hmatch
      cases h
      exact ⟨hdecode, rfl, hmatch, rfl⟩

/-- A server found by name is the only listed server of that exact name with both ownership
tags; the lookup made exactly the one `ListServers` call. -/
theorem getMachineByName_ok {s : σ} {machineName : String} {server : Server}
    (h : (Prog.run answer s (getMachineByName pre spec machineName)).result = .ok server) :
    (searchTags pre spec.tags.entries).found = true ∧ ∃ listed,
      (answer s (.listServers ⟨machineName⟩)).1 = .ok listed ∧
      matchingServers machineName (searchTags pre spec.tags.entries) listed = [server] ∧
      (Prog.run answer s (getMachineByName pre spec machineName)).trace =
        [⟨.listServers ⟨machineName⟩, .ok listed⟩] := by
  by_cases hfound : (searchTags pre spec.tags.entries).found = true
  · rw [getMachineByName_run_found answer pre spec s machineName hfound] at h ⊢
    refine ⟨hfound, ?_⟩
    cases hlist : (answer s (.listServers ⟨machineName⟩)).1 with
    | error err => rw [hlist] at h; cases h
    | ok listed =>
      rw [hlist] at h
      refine ⟨listed, rfl, ?_, rfl⟩
      rcases hM : matchingServers machineName (searchTags pre spec.tags.entries) listed with
        _ | ⟨found, _ | ⟨other, rest⟩⟩ <;> simp_all
  · simp [getMachineByName, hfound] at h

/-- `getMachineByName` reports "not found" only on a listing without an owned match. -/
theorem getMachineByName_notFound {s : σ} {machineName : String} {err : Error}
    (h : (Prog.run answer s (getMachineByName pre spec machineName)).result = .error err)
    (hnotFound : err.is .errNotFound = true) :
    (searchTags pre spec.tags.entries).found = true ∧ ∃ listed,
      (answer s (.listServers ⟨machineName⟩)).1 = .ok listed ∧
      matchingServers machineName (searchTags pre spec.tags.entries) listed = [] ∧
      (Prog.run answer s (getMachineByName pre spec machineName)).trace =
        [⟨.listServers ⟨machineName⟩, .ok listed⟩] := by
  by_cases hfound : (searchTags pre spec.tags.entries).found = true
  · rw [getMachineByName_run_found answer pre spec s machineName hfound] at h ⊢
    refine ⟨hfound, ?_⟩
    cases hlist : (answer s (.listServers ⟨machineName⟩)).1 with
    | error e => simp only [hlist, Except.error.injEq] at h; simp [← h, Error.is] at hnotFound
    | ok listed =>
      simp only [hlist] at h
      rcases hM : matchingServers machineName (searchTags pre spec.tags.entries) listed with
        _ | ⟨found, _ | ⟨other, rest⟩⟩
      · exact ⟨listed, rfl, hM, rfl⟩
      · simp [hM] at h
      · simp only [hM, Except.error.injEq] at h; simp [← h, Error.is] at hnotFound
  · simp [getMachineByName, hfound] at h
    simp [← h, Error.is] at hnotFound

/-- `getMachineByProviderID` reports "not found" only when the decoded server is missing or
lacks an ownership tag. -/
theorem getMachineByProviderID_notFound {s : σ} {providerID : String} {err : Error}
    (h : (Prog.run answer s (getMachineByProviderID pre spec providerID)).result = .error err)
    (hnotFound : err.is .errNotFound = true) :
    decodeProviderID providerID ≠ "" ∧
      ((∃ e, (answer s (.getServer (decodeProviderID providerID))).1 = .error e ∧
          isNotFoundError e = true) ∨
        ∃ server, (answer s (.getServer (decodeProviderID providerID))).1 = .ok server ∧
          (searchTags pre spec.tags.entries).matches server.metadata = false) ∧
      (Prog.run answer s (getMachineByProviderID pre spec providerID)).trace =
        [⟨.getServer (decodeProviderID providerID),
          (answer s (.getServer (decodeProviderID providerID))).1⟩] := by
  by_cases hdecode : decodeProviderID providerID = ""
  · simp [getMachineByProviderID, hdecode] at h
    simp [← h, Error.is] at hnotFound
  · rw [getMachineByProviderID_run answer pre spec s providerID hdecode] at h ⊢
    refine ⟨hdecode, ?_, rfl⟩
    cases hget : (answer s (.getServer (decodeProviderID providerID))).1 with
    | error e =>
      simp only [hget] at h
      split_ifs at h with hnf
      · exact .inl ⟨e, rfl, hnf⟩
      · simp only [Except.error.injEq] at h; simp [← h, Error.is] at hnotFound
    | ok server =>
      simp only [hget] at h
      split_ifs at h with hmatch
      exact .inr ⟨server, rfl, by simpa using hmatch⟩

/-- A server in a name match has that exact name. -/
theorem name_eq_of_matchingServers {machineName : String} {keys : TagKeys}
    {listed : List Server} {server : Server}
    (h : matchingServers machineName keys listed = [server]) :
    server.name = machineName ∧ keys.matches server.metadata = true := by
  have hmem : server ∈ matchingServers machineName keys listed := by simp [h]
  simp only [matchingServers, List.mem_filter, Bool.and_eq_true, beq_iff_eq] at hmem
  exact hmem.2

/-- An owned server with the exact name, when no other record of the provider has both, is the
only match of every listing for that name that contains it. -/
theorem matchingServers_filter_eq_singleton {machineName : String} {keys : TagKeys}
    {servers : List Server} {server : Server} (hmem : server ∈ servers)
    (hname : server.name = machineName) (hkeys : keys.matches server.metadata = true)
    (hunique : (matchingServers machineName keys servers).length ≤ 1) :
    matchingServers machineName keys
      (servers.filter fun sv => stringsContains sv.name machineName) = [server] := by
  have hin : server ∈ matchingServers machineName keys
      (servers.filter fun sv => stringsContains sv.name machineName) := by
    simp [matchingServers, hmem, hname, hkeys]
  have hlen : (matchingServers machineName keys
      (servers.filter fun sv => stringsContains sv.name machineName)).length ≤ 1 :=
    ((List.filter_sublist servers).filter _).length_le.trans hunique
  generalize matchingServers machineName keys _ = M at hin hlen ⊢
  rcases M with _ | ⟨x, _ | ⟨y, rest⟩⟩
  · cases hin
  · rw [List.mem_singleton.mp hin]
  · simp at hlen

/-! ## Enumeration -/

/-- The loop of `ListMachines`: each encoded identifier reads the name of the last owned server
listed under it, and any other identifier what the map held before. -/
theorem lookup_listedMachines (region : String) (keys : TagKeys) (k : String) (result : GoMap)
    (servers : List Server) :
    (listedMachines region keys result servers).entries.lookup k =
      (((servers.filter fun server => keys.matches server.metadata).reverse.find?
        fun server => encodeProviderID region server.id == k).map (·.name)).or
        (result.entries.lookup k) := by
  induction servers generalizing result with
  | nil => simp [listedMachines]
  | cons server servers ih =>
    by_cases howned : keys.matches server.metadata = true
    · rw [listedMachines, if_pos howned, ih, GoMap.lookup_insert]
      simp only [List.filter_cons, howned, if_true, List.reverse_cons, List.find?_append]
      cases (List.filter (fun server => keys.matches server.metadata) servers).reverse.find?
          fun server => encodeProviderID region server.id == k with
      | some found => rfl
      | none =>
        by_cases hk : encodeProviderID region server.id = k
        · simp [hk]
        · simp [hk, Ne.symm hk]
    · rw [listedMachines, if_neg howned, ih]
      simp [List.filter_cons, howned]

/-- **Enumeration** (spec §4.4). Without both tag names `ListMachines` fails with its
configuration error, makes no call and changes nothing. With them it makes one `ListServers`
call, and the map it returns holds, under each encoded identifier, the name of the last owned
server of the listing with that identifier, and nothing under any other identifier. -/
theorem listMachines_spec (s : σ) :
    ((searchTags pre spec.tags.entries).found = false →
      Prog.run answer s (listMachines pre spec) =
        ⟨.error (.text "operation can not proceed: cluster/role tags are missing"), s, []⟩) ∧
    ∀ listed, (searchTags pre spec.tags.entries).found = true →
      (answer s (.listServers ⟨""⟩)).1 = .ok listed →
      ∃ m, (Prog.run answer s (listMachines pre spec)).result = .ok m ∧
        (Prog.run answer s (listMachines pre spec)).trace = [⟨.listServers ⟨""⟩, .ok listed⟩] ∧
        ∀ providerID, m.entries.lookup providerID =
          ((listed.filter fun server =>
              (searchTags pre spec.tags.entries).matches server.metadata).reverse.find?
            fun server => encodeProviderID spec.region server.id == providerID).map (·.name) := by
  refine ⟨fun hfound => by simp [listMachines, hfound], fun listed hfound hlisted => ?_⟩
  simp only [listMachines, hfound, Bool.not_true, Bool.false_eq_true, if_false, Prog.bind_eq,
    Compute.listServers, Prog.ask, Prog.call_bind, Prog.pure_bind, Prog.run_call, hlisted]
  refine ⟨_, rfl, rfl, fun providerID => ?_⟩
  rw [lookup_listedMachines]
  simp [GoMap.empty, Option.or_none]

/-- Server `x` listed twice, as `m` and then as `m-2`, and a server `w` without tags. -/
def repeatedServers : List Server :=
  [sampleServer "x" "m" "ACTIVE" sampleTags.entries, sampleServer "w" "w" "ACTIVE" [],
    sampleServer "x" "m-2" "ACTIVE" sampleTags.entries]

/-- The map of `repeatedServers`: `x` under its last name, and no entry for `w`. -/
theorem listMachines_repeated :
    ∃ m, (Prog.run (Cloud.respond quiet) (sampleCloud repeatedServers, 0)
        (listMachines samplePrefixes (sampleSpec sampleTags none))).result = .ok m ∧
      m.entries.lookup "openstack:///region/x" = some "m-2" ∧
      m.entries.lookup "openstack:///region/w" = none := by
  obtain ⟨m, hm, -, hlookup⟩ := (listMachines_spec (Cloud.respond quiet) samplePrefixes
    (sampleSpec sampleTags none) (sampleCloud repeatedServers, 0)).2 repeatedServers
    (by decide) (by decide)
  exact ⟨m, hm, by rw [hlookup]; decide, by rw [hlookup]; decide⟩

end OpenStackExecutor
