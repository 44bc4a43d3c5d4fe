import Mathlib.Data.List.Infix
import Mathlib.Data.List.Perm.Basic
import Mathlib.Data.List.Nodup
import OpenStackExecutor.Client

/-!
# The machine class and the ownership tags

`MachineProviderConfigSpec` is the part of the machine class the executor reads. A Go map
is a list of entries with distinct keys, in the order one `range` statement happens to visit it;
two visits of the same map are permutations of each other. The ownership keys are the tag
names found by the loop that `getMachineByProviderID`, `getMachineByName` and `ListMachines`
each run over the tags.
-/

namespace OpenStackExecutor

/-- A Go `map[string]string`, listed in the order one `range` statement visits it. -/
structure GoMap where
  entries : List (String × String)
  nodup : (entries.map Prod.fst).Nodup

/-- `m[key] = value`: overwrite the entry of `key`, or add one. -/
def GoMap.insert (m : GoMap) (key value : String) : GoMap :=
  if hkey : key ∈ m.entries.map Prod.fst then
    ⟨m.entries.map fun e => if e.1 = key then (key, value) else e, by
      have hkeys : (m.entries.map fun e => if e.1 = key then (key, value) else e).map Prod.fst =
          m.entries.map Prod.fst := by
        simp only [List.map_map]
        exact List.map_congr_left fun e _ => by by_cases h : e.1 = key <;> simp [h]
      rw [hkeys]
      exact m.nodup⟩
  else
    ⟨m.entries ++ [(key, value)], by
      simpa [List.nodup_append] using And.intro m.nodup hkey⟩

/-- The empty map. -/
def GoMap.empty : GoMap := ⟨[], List.nodup_nil⟩

instance : DecidableEq GoMap := fun a b =>
  decidable_of_iff (a.entries = b.entries)
    ⟨fun h => by cases a; cases b; cases h; rfl, by rintro rfl; rfl⟩

/-- Overwriting every entry of `key` with `(key, value)`, as `GoMap.insert` does for a present
key. -/
theorem lookup_map_overwrite (key value k : String) (l : List (String × String)) :
    (l.map fun e => if e.1 = key then (key, value) else e).lookup k =
      if k = key ∧ key ∈ l.map Prod.fst then some value else l.lookup k := by
  induction l with
  | nil => simp
  | cons e l ih =>
    obtain ⟨k', v'⟩ := e
    by_cases hk : k = k'
    · subst hk
      by_cases he : k = key <;> simp [List.lookup_cons, he]
    · have hb : (k == k') = false := beq_false_of_ne hk
      by_cases he : k' = key
      · subst he; simp [List.lookup_cons, hb, ih, hk]
      · simp only [List.map_cons, he, if_false, List.lookup_cons, hb, ih, List.mem_cons,
          Ne.symm he, false_or]

/-- Reading a map after `m[key] = value`. -/
theorem GoMap.lookup_insert (m : GoMap) (key value k : String) :
    (m.insert key value).entries.lookup k = if k = key then some value else m.entries.lookup k := by
  unfold GoMap.insert
  split
  · next hkey => simp [lookup_map_overwrite, hkey]
  · next hkey =>
    by_cases hk : k = key
    · subst hk
      have hnone : m.entries.lookup k = none := List.lookup_eq_none_iff.mpr fun p hp =>
        bne_iff_ne.mpr fun h => hkey (h ▸ List.mem_map_of_mem _ hp)
      simp [List.lookup_append, hnone]
    · simp [List.lookup_append, List.lookup_cons, beq_false_of_ne hk, hk, Option.or_none]

/-- An entry after `m[key] = value` was an entry before or is `(key, value)`. -/
theorem GoMap.mem_insert {m : GoMap} {key value : String} {e : String × String}
    (h : e ∈ (m.insert key value).entries) : e ∈ m.entries ∨ e = (key, value) := by
  unfold GoMap.insert at h
  split at h
  · obtain ⟨e', he', rfl⟩ := List.mem_map.mp h
    by_cases hk : e'.1 = key
    · exact .inr (if_pos hk)
    · exact .inl (by rwa [if_neg hk])
  · simpa using h

/-- `OpenStackNetwork`, one entry of the machine class's network list. -/
structure OpenStackNetwork where
  id : String
  name : String
  podNetwork : Bool
  deriving DecidableEq, Repr

/-- The fields of `MachineProviderConfigSpec` that the executor reads. Pointer fields are
`Option`s; `nil` is `none`. -/
structure MachineProviderConfigSpec where
  region : String
  networkID : String
  subnetID : Option String
  networks : List OpenStackNetwork
  securityGroups : List String
  keyName : String
  imageName : String
  imageID : String
  availabilityZone : String
  flavorName : String
  tags : GoMap
  rootDiskSize : Int
  useConfigDrive : Option Bool
  serverGroupID : Option String
  podNetworkCidr : String

/-- Modelled from the spec: the helper `isEmptyString` is not among the sources; §4.1 treats an
unset and an empty subnet id alike, so a `nil` pointer and a pointer to `""` are both empty. -/
def isEmptyString (s : Option String) : Bool := s.getD "" == ""

/-- Modelled from the spec: the helper `strSliceContains` is not among the sources; §4.3 reads
it as membership of a status in the target or pending set. -/
def strSliceContains (slice : List String) (s : String) : Bool := slice.contains s

/-- Modelled from the spec: the status constants of the client package, named in §3. -/
def serverStatusBuild : String := "BUILD"
/-- Modelled from the spec: `client.ServerStatusActive`. -/
def serverStatusActive : String := "ACTIVE"
/-- Modelled from the spec: `client.ServerStatusError`. -/
def serverStatusError : String := "ERROR"
/-- Modelled from the spec: `client.ServerStatusDeleted`. -/
def serverStatusDeleted : String := "DELETED"

/-- Modelled from the spec: `EncodeProviderID` is not among the sources; §6 gives the wire
format `openstack:///<region>/<instance-id>`. -/
def encodeProviderID (region machineID : String) : String :=
  "openstack:///" ++ region ++ "/" ++ machineID

/-- Modelled from the spec: `DecodeProviderID` is not among the sources; §6 says it returns the
instance id of an identifier of the shape `openstack:///<region>/<instance-id>` (the text after
the last `/`) and the empty string for any other string. -/
def decodeProviderID (providerID : String) : String :=
  match "openstack:///".toList.isPrefixOf? providerID.toList with
  | some rest =>
    match rest.reverse.span (· ≠ '/') with
    | (_, []) => ""
    | (revID, _ :: _) => String.mk revID.reverse
  | none => ""

theorem encodeProviderID_ne_empty (region machineID : String) :
    encodeProviderID region machineID ≠ "" := by
  intro h
  have := congrArg String.length h
  simp [encodeProviderID] at this
  exact absurd this.1.2 (by decide)

theorem encodeProviderID_injective (region : String) : Function.Injective (encodeProviderID region) :=
  fun a b h => String.ext <| by
    simpa only [encodeProviderID, String.data_append, List.append_assoc,
      List.append_cancel_left_eq] using congrArg String.data h

theorem isPrefixOf?_append (l t : List Char) : l.isPrefixOf? (l ++ t) = some t := by
  induction l with
  | nil => simp [List.isPrefixOf?]
  | cons c l ih => simpa [List.isPrefixOf?] using ih

/-- Decoding an encoded identifier gives the instance id back, when the id has no `/`. -/
theorem decodeProviderID_encodeProviderID (region id : String) (hid : '/' ∉ id.toList) :
    decodeProviderID (encodeProviderID region id) = id := by
  have hall : ∀ c ∈ id.toList.reverse, decide (c ≠ '/') = true := fun c hc => by
    simpa using ne_of_mem_of_not_mem (List.mem_reverse.mp hc) hid
  have hsplit : (encodeProviderID region id).toList =
      "openstack:///".toList ++ (region.toList ++ '/' :: id.toList) := by
    simp [encodeProviderID]
  rw [decodeProviderID, hsplit, isPrefixOf?_append]
  simp only [List.reverse_append, List.reverse_cons, List.append_assoc, List.singleton_append,
    List.span_eq_take_drop, List.takeWhile_append_of_pos hall, List.dropWhile_append_of_pos hall]
  simp

/-- The tag-name prefixes `cloudprovider.ServerTagClusterPrefix` and `ServerTagRolePrefix`.
Their values are not among the sources, so every result is stated for any two non-empty
prefixes. -/
structure Prefixes where
  cluster : String
  role : String
  cluster_ne : cluster ≠ ""
  role_ne : role ≠ ""

/-- `strings.Contains`. -/
def stringsContains (s substr : String) : Bool := decide (substr.toList <:+: s.toList)

@[simp] theorem stringsContains_self (s : String) : stringsContains s s = true := by
  simp [stringsContains]

/-- The two tag names the ownership check looks for (`searchClusterName`, `searchNodeRole`). -/
structure TagKeys where
  searchClusterName : String
  searchNodeRole : String
  deriving DecidableEq, Repr

/-- One iteration of `for key := range ex.Config.Spec.Tags`: a key naming the cluster is taken
as the cluster tag, otherwise a key naming the role as the role tag. -/
def TagKeys.visit (pre : Prefixes) (keys : TagKeys) (key : String) : TagKeys :=
  if stringsContains key pre.cluster then { keys with searchClusterName := key }
  else if stringsContains key pre.role then { keys with searchNodeRole := key }
  else keys

/-- The tag-name loop, over the entries in the order this `range` statement visits them. -/
def searchTags (pre : Prefixes) (tags : List (String × String)) : TagKeys :=
  tags.foldl (fun keys e => keys.visit pre e.1) ⟨"", ""⟩

/-- `_, ok := metadata[key]`. -/
def hasKey (metadata : List (String × String)) (key : String) : Bool :=
  (metadata.lookup key).isSome

theorem hasKey_of_mem {metadata : List (String × String)} {key : String}
    (h : key ∈ metadata.map Prod.fst) : hasKey metadata key = true := by
  obtain ⟨e, he, rfl⟩ := List.mem_map.mp h
  simpa [hasKey] using ⟨e.2, he⟩

/-- The ownership check: the metadata holds both tag names. -/
def TagKeys.matches (keys : TagKeys) (metadata : List (String × String)) : Bool :=
  hasKey metadata keys.searchClusterName && hasKey metadata keys.searchNodeRole

/-- Both tag names were found (`searchClusterName != "" && searchNodeRole != ""`). -/
def TagKeys.found (keys : TagKeys) : Bool :=
  keys.searchClusterName != "" && keys.searchNodeRole != ""

end OpenStackExecutor
