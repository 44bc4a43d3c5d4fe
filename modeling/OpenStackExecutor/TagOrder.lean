import OpenStackExecutor.Executor.Lifecycle
import OpenStackExecutor.Cloud.Model

/-!
# The order of the tag loop

`getMachineByProviderID`, `getMachineByName` and `ListMachines` each find the ownership tag
names with `for key := range ex.Config.Spec.Tags`, and Go visits a map in an unspecified order
that changes from one `range` statement to the next. The loop keeps the last key naming the
cluster and the last other key naming the role, so the verdict depends on the order exactly
when two keys compete for one of the two names.
-/

namespace OpenStackExecutor

variable (pre : Prefixes)

/-- The tag names containing the cluster prefix, in visiting order. -/
def clusterKeys (tags : List (String × String)) : List String :=
  (tags.map Prod.fst).filter fun key => stringsContains key pre.cluster

/-- The tag names containing the role prefix but not the cluster prefix, in visiting order. -/
def roleKeys (tags : List (String × String)) : List String :=
  (tags.map Prod.fst).filter fun key => !stringsContains key pre.cluster && stringsContains key pre.role

/-- The loop from any starting pair keeps the last cluster key and the last role key visited. -/
theorem foldl_visit (tags : List (String × String)) (keys : TagKeys) :
    tags.foldl (fun keys e => keys.visit pre e.1) keys =
      ⟨(clusterKeys pre tags).getLast?.getD keys.searchClusterName,
        (roleKeys pre tags).getLast?.getD keys.searchNodeRole⟩ := by
  induction tags generalizing keys with
  | nil => rfl
  | cons e tags ih =>
    rw [List.foldl_cons, ih]
    by_cases hc : stringsContains e.1 pre.cluster = true
    · simp [clusterKeys, roleKeys, TagKeys.visit, hc, List.getLast?_cons]
    · by_cases hr : stringsContains e.1 pre.role = true
      · simp [clusterKeys, roleKeys, TagKeys.visit, hc, hr, List.getLast?_cons]
      · simp [clusterKeys, roleKeys, TagKeys.visit, hc, hr]

/-- The ownership tag names: the last key visited that names the cluster, and the last other key
that names the role, or `""`. -/
theorem searchTags_eq (tags : List (String × String)) :
    searchTags pre tags =
      ⟨(clusterKeys pre tags).getLast?.getD "", (roleKeys pre tags).getLast?.getD ""⟩ :=
  foldl_visit pre tags ⟨"", ""⟩

/-- At most one tag name contains the cluster prefix, and at most one other tag name contains the
role prefix. -/
def UniqueOwnershipKeys (tags : GoMap) : Prop :=
  (clusterKeys pre tags.entries).length ≤ 1 ∧ (roleKeys pre tags.entries).length ≤ 1

theorem eq_of_perm_of_length_le_one {l₁ l₂ : List String} (hperm : List.Perm l₁ l₂)
    (hlen : l₂.length ≤ 1) : l₁ = l₂ := by
  rcases l₂ with _ | ⟨a, _ | ⟨b, l₂⟩⟩
  · exact List.perm_nil.mp hperm
  · exact List.perm_singleton.mp hperm
  · simp at hlen

/-- Under unique ownership keys, every visiting order of the tags finds the same names. -/
theorem searchTags_perm {tags₁ tags₂ : List (String × String)} (hperm : List.Perm tags₁ tags₂)
    (hcluster : (clusterKeys pre tags₂).length ≤ 1) (hrole : (roleKeys pre tags₂).length ≤ 1) :
    searchTags pre tags₁ = searchTags pre tags₂ := by
  have hc : clusterKeys pre tags₁ = clusterKeys pre tags₂ :=
    eq_of_perm_of_length_le_one ((hperm.map Prod.fst).filter _) hcluster
  have hr : roleKeys pre tags₁ = roleKeys pre tags₂ :=
    eq_of_perm_of_length_le_one ((hperm.map Prod.fst).filter _) hrole
  rw [searchTags_eq, searchTags_eq, hc, hr]

/-- A name that contains a non-empty prefix is non-empty. -/
theorem ne_empty_of_stringsContains {s substr : String} (h : stringsContains s substr = true)
    (hsub : substr ≠ "") : s ≠ "" := by
  rintro rfl
  obtain ⟨data⟩ := substr
  simp_all [stringsContains]

theorem getLast?_getD_ne_empty_iff {l : List String} (h : ∀ k ∈ l, k ≠ "") :
    l.getLast?.getD "" ≠ "" ↔ l ≠ [] := by
  cases hl : l.getLast? with
  | none => simp [List.getLast?_eq_none_iff.mp hl]
  | some k =>
    simp only [Option.getD_some]
    exact ⟨fun _ hnil => by simp [hnil] at hl, fun _ => h k (List.mem_of_getLast?_eq_some hl)⟩

/-- Both tag names are found exactly when some key names the cluster and some other key names
the role. -/
theorem searchTags_found_iff (tags : List (String × String)) :
    (searchTags pre tags).found = true ↔ clusterKeys pre tags ≠ [] ∧ roleKeys pre tags ≠ [] := by
  have hc : ∀ k ∈ clusterKeys pre tags, k ≠ "" := fun k hk =>
    ne_empty_of_stringsContains (List.mem_filter.mp hk).2 pre.cluster_ne
  have hr : ∀ k ∈ roleKeys pre tags, k ≠ "" := fun k hk => by
    have hk' := (List.mem_filter.mp hk).2
    simp only [Bool.and_eq_true, Bool.not_eq_true'] at hk'
    exact ne_empty_of_stringsContains hk'.2 pre.role_ne
  rw [searchTags_eq, ← getLast?_getD_ne_empty_iff hc, ← getLast?_getD_ne_empty_iff hr]
  simp [TagKeys.found]

/-- Whether both tag names are found does not depend on the visiting order. -/
theorem searchTags_found_perm {tags₁ tags₂ : List (String × String)} (hperm : List.Perm tags₁ tags₂) :
    (searchTags pre tags₁).found = (searchTags pre tags₂).found := by
  have hc : List.Perm (clusterKeys pre tags₁) (clusterKeys pre tags₂) := (hperm.map Prod.fst).filter _
  have hr : List.Perm (roleKeys pre tags₁) (roleKeys pre tags₂) := (hperm.map Prod.fst).filter _
  rw [Bool.eq_iff_iff, searchTags_found_iff, searchTags_found_iff]
  simp only [ne_eq, ← List.length_eq_zero, hc.length_eq, hr.length_eq]

/-- Found tag names are keys of the tags, so metadata holding every key of the tags is owned. -/
theorem searchTags_matches {tags metadata : List (String × String)}
    (hfound : (searchTags pre tags).found = true)
    (hkeys : ∀ key ∈ tags.map Prod.fst, hasKey metadata key = true) :
    (searchTags pre tags).matches metadata = true := by
  obtain ⟨hc, hr⟩ := (searchTags_found_iff pre tags).mp hfound
  obtain ⟨kc, hkc⟩ := Option.ne_none_iff_exists'.mp (mt List.getLast?_eq_none_iff.mp hc)
  obtain ⟨kr, hkr⟩ := Option.ne_none_iff_exists'.mp (mt List.getLast?_eq_none_iff.mp hr)
  rw [searchTags_eq, TagKeys.matches, hkc, hkr, Option.getD_some, Option.getD_some,
    hkeys kc (List.mem_filter.mp (List.mem_of_getLast?_eq_some hkc)).1,
    hkeys kr (List.mem_filter.mp (List.mem_of_getLast?_eq_some hkr)).1, Bool.and_self]

variable (spec : MachineProviderConfigSpec)

/-- **Order independence under unique ownership keys** (spec §3). When at most one tag name
contains the cluster prefix and at most one other contains the role prefix, visiting the tags
in any other order leaves `getMachineByProviderID`, `getMachineByName` and `ListMachines`
unchanged as programs, so each returns the same result for every provider. -/
theorem ownership_lookups_order_independent (tags₂ : GoMap) (hperm : List.Perm tags₂.entries spec.tags.entries)
    (huniq : UniqueOwnershipKeys pre spec.tags) :
    getMachineByProviderID pre { spec with tags := tags₂ } = getMachineByProviderID pre spec ∧
    getMachineByName pre { spec with tags := tags₂ } = getMachineByName pre spec ∧
    listMachines pre { spec with tags := tags₂ } = listMachines pre spec := by
  have hkeys := searchTags_perm pre hperm huniq.1 huniq.2
  refine ⟨funext fun providerID => ?_, funext fun machineName => ?_, ?_⟩
  · simp only [getMachineByProviderID, hkeys]
  · simp only [getMachineByName, hkeys]
  · simp only [listMachines, hkeys]

/-- The sample tags visited in reverse order find the same names. -/
theorem ownership_lookups_sample_reversed :
    getMachineByName samplePrefixes
        { sampleSpec ⟨[("role-node", "1"), ("cluster-shoot", "1")], by decide⟩ none with
          tags := ⟨[("cluster-shoot", "1"), ("role-node", "1")], by decide⟩ } =
      getMachineByName samplePrefixes
        (sampleSpec ⟨[("role-node", "1"), ("cluster-shoot", "1")], by decide⟩ none) :=
  (ownership_lookups_order_independent samplePrefixes _ _ (by decide) ⟨by decide, by decide⟩).2.1

/-- Tags with two cluster keys, visited in two orders. -/
def clusterTagsAB : GoMap :=
  ⟨[("cluster-a", "1"), ("cluster-b", "1"), ("role-node", "1")], by decide⟩

/-- The same map as `clusterTagsAB`, with the two cluster keys visited the other way round. -/
def clusterTagsBA : GoMap :=
  ⟨[("cluster-b", "1"), ("cluster-a", "1"), ("role-node", "1")], by decide⟩

/-- Two visits of one tag map that disagree on the owner: the server carries `cluster-a` and
the role tag; the visit ending on `cluster-b` reports it as not found, the other returns it. -/
theorem tag_order_changes_ownership :
    List.Perm clusterTagsBA.entries clusterTagsAB.entries ∧
      (Cloud.run quiet (sampleCloud [sampleServer "x" "m" "ACTIVE"
          [("cluster-a", "1"), ("role-node", "1")]])
        (getMachineByProviderID samplePrefixes (sampleSpec clusterTagsAB none)
          (encodeProviderID "region" "x"))).result ≠
      (Cloud.run quiet (sampleCloud [sampleServer "x" "m" "ACTIVE"
          [("cluster-a", "1"), ("role-node", "1")]])
        (getMachineByProviderID samplePrefixes (sampleSpec clusterTagsBA none)
          (encodeProviderID "region" "x"))).result := by
  decide

end OpenStackExecutor
