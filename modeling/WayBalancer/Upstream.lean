import WayBalancer.IpAddr
import WayBalancer.SortedMap
/-!
# Upstream — clusters, their endpoints, and the registry of them

`crates/net-core/src/upstream.rs` and `crates/runtime/src/upstream_registry.rs`.  Names and identifiers are not blank, an
endpoint has passed its checks and a cluster's identifiers are distinct: what the constructors of the source check is a field
here.
-/
namespace WayBalancer

open Str Word

/-! ## The model -/

structure UpstreamClusterName where
  value : Text
  nonblank : (trim value).isEmpty = false
deriving Repr

structure UpstreamEndpointId where
  value : Text
  nonblank : (trim value).isEmpty = false
deriving Repr

theorem UpstreamClusterName.value_injective : Function.Injective UpstreamClusterName.value := by
  rintro ⟨a, ha⟩ ⟨b, hb⟩ h
  cases h
  rfl

theorem UpstreamEndpointId.value_injective : Function.Injective UpstreamEndpointId.value := by
  rintro ⟨a, ha⟩ ⟨b, hb⟩ h
  cases h
  rfl

/-- Strings are ordered by their scalar values, as their UTF-8 is. -/
instance : LinearOrder UpstreamClusterName := LinearOrder.lift' UpstreamClusterName.value UpstreamClusterName.value_injective

instance : LinearOrder UpstreamEndpointId := LinearOrder.lift' UpstreamEndpointId.value UpstreamEndpointId.value_injective

structure SocketAddr where
  ip : IpAddr
  port : UInt16
deriving DecidableEq, Repr

def IpAddr.isUnspecified : IpAddr → Bool
  | .v4 a b c d  => a == 0 && b == 0 && c == 0 && d == 0
  | .v6 segments => segments.toList.all (· == 0)

structure EndpointMetadata where
  zone : Option Text
  locality : Option Text
  weight : UInt16
deriving DecidableEq, Repr

inductive MetadataField
  | zone
  | locality
deriving DecidableEq, Repr

inductive UpstreamModelError
  | emptyClusterName
  | emptyEndpointId
  | zeroPort (address : SocketAddr)
  | unspecifiedAddress (address : SocketAddr)
  | metadataTooLong (field : MetadataField) (maxLen : ℕ)
  | zeroEndpointWeight
  | duplicateEndpointId (endpointId : Text)
deriving DecidableEq, Repr

def UpstreamClusterName.new (value : Text) : Except UpstreamModelError UpstreamClusterName :=
  if h : (trim value).isEmpty = false then .ok ⟨value, h⟩ else .error .emptyClusterName

def UpstreamEndpointId.new (value : Text) : Except UpstreamModelError UpstreamEndpointId :=
  if h : (trim value).isEmpty = false then .ok ⟨value, h⟩ else .error .emptyEndpointId

def maxMetadataValueLen : ℕ := 64

def validateMetadataField (field : MetadataField) (value : Option Text) : Except UpstreamModelError Unit :=
  if value.any (fun value => maxMetadataValueLen < byteLen value) then .error (.metadataTooLong field maxMetadataValueLen)
  else .ok ()

def EndpointMetadata.validate (m : EndpointMetadata) : Except UpstreamModelError Unit := do
  validateMetadataField .zone m.zone
  validateMetadataField .locality m.locality
  if m.weight = 0 then .error .zeroEndpointWeight else .ok ()

def validateEndpointAddress (address : SocketAddr) : Except UpstreamModelError Unit :=
  if address.port = 0 then .error (.zeroPort address)
  else if address.ip.isUnspecified then .error (.unspecifiedAddress address)
  else .ok ()

def validateEndpoint (address : SocketAddr) (metadata : EndpointMetadata) : Except UpstreamModelError Unit := do
  validateEndpointAddress address
  metadata.validate

inductive EndpointState
  | ready
  | draining
  | unavailable
deriving DecidableEq, Repr

def EndpointState.isReady : EndpointState → Bool
  | .ready => true
  | _      => false

structure UpstreamEndpoint where
  id : UpstreamEndpointId
  address : SocketAddr
  state : EndpointState
  metadata : EndpointMetadata
  valid : validateEndpoint address metadata = .ok ()

def UpstreamEndpoint.new (id : UpstreamEndpointId) (address : SocketAddr) (state : EndpointState)
    (metadata : EndpointMetadata) : Except UpstreamModelError UpstreamEndpoint :=
  match h : validateEndpoint address metadata with
  | .error e => .error e
  | .ok ()   => .ok ⟨id, address, state, metadata, h⟩

def UpstreamEndpoint.withState (e : UpstreamEndpoint) (state : EndpointState) : UpstreamEndpoint := { e with state }

def UpstreamEndpoint.validate (e : UpstreamEndpoint) : Except UpstreamModelError Unit := validateEndpoint e.address e.metadata

structure UpstreamCluster where
  name : UpstreamClusterName
  endpoints : List UpstreamEndpoint
  distinct : (endpoints.map (·.id)).Nodup

/-- The first endpoint that fails its check or repeats an identifier seen before it. -/
def validateEndpointUniqueness (seen : List UpstreamEndpointId) : List UpstreamEndpoint → Except UpstreamModelError Unit
  | []                => .ok ()
  | endpoint :: rest => do
    endpoint.validate
    if seen.contains endpoint.id then .error (.duplicateEndpointId endpoint.id.value)
    else validateEndpointUniqueness (endpoint.id :: seen) rest

theorem UpstreamEndpoint.validate_eq (e : UpstreamEndpoint) : e.validate = .ok () := e.valid

theorem UpstreamEndpoint.weight_ne_zero (e : UpstreamEndpoint) : e.metadata.weight ≠ 0 := by
  intro hze
  have hv := e.valid
  unfold validateEndpoint EndpointMetadata.validate at hv
  rw [if_pos hze] at hv
  cases ha : validateEndpointAddress e.address with
  | error => rw [ha] at hv; cases hv
  | ok =>
    cases hz : validateMetadataField .zone e.metadata.zone with
    | error => rw [ha, hz] at hv; cases hv
    | ok => cases hl : validateMetadataField .locality e.metadata.locality <;> rw [ha, hz, hl] at hv <;> cases hv

theorem validateEndpointUniqueness_ok : ∀ {endpoints : List UpstreamEndpoint} {seen : List UpstreamEndpointId},
    validateEndpointUniqueness seen endpoints = .ok () → (endpoints.map (·.id)).Nodup ∧ ∀ id ∈ seen, id ∉ endpoints.map (·.id)
  | [], _, _ => ⟨.nil, fun _ _ => List.not_mem_nil⟩
  | endpoint :: rest, seen, h => by
    rw [validateEndpointUniqueness, endpoint.validate_eq] at h
    change (if seen.contains endpoint.id then _ else _) = _ at h
    split_ifs at h with hs
    obtain ⟨hnd, hfre⟩ := validateEndpointUniqueness_ok h
    refine ⟨List.nodup_cons.2 ⟨hfre endpoint.id List.mem_cons_self, hnd⟩, fun id hid hm => ?_⟩
    rcases List.mem_cons.1 hm with rfl | hm
    · exact hs (List.contains_iff_mem.2 hid)
    · exact hfre id (List.mem_cons_of_mem _ hid) hm

namespace UpstreamCluster

def new (name : UpstreamClusterName) (endpoints : List UpstreamEndpoint) : Except UpstreamModelError UpstreamCluster :=
  match h : validateEndpointUniqueness [] endpoints with
  | .error e => .error e
  | .ok ()   => .ok ⟨name, endpoints, (validateEndpointUniqueness_ok h).1⟩

variable (c : UpstreamCluster) (endpointId : UpstreamEndpointId)

def endpoint : Option UpstreamEndpoint :=
  c.endpoints.find? (fun e => e.id = endpointId)

theorem distinct_append {e : UpstreamEndpoint} (hfre : ¬ c.endpoints.any (fun existing => existing.id = e.id) = true) :
    ((c.endpoints ++ [e]).map (·.id)).Nodup := by
  rw [List.map_append, List.map_singleton, ← List.concat_eq_append]
  apply List.Nodup.concat _ c.distinct
  intro hid
  obtain ⟨existing, hex, heq⟩ := List.mem_map.1 hid
  exact hfre (List.any_eq_true.2 ⟨existing, hex, decide_eq_true heq⟩)

def insertEndpoint (e : UpstreamEndpoint) : Except UpstreamModelError UpstreamCluster :=
  match e.validate with
  | .error error => .error error
  | .ok () =>
    if h : c.endpoints.any (fun existing => existing.id = e.id) then .error (.duplicateEndpointId e.id.value)
    else .ok { c with endpoints := c.endpoints ++ [e], distinct := c.distinct_append h }

def removeEndpoint : Option (UpstreamEndpoint × UpstreamCluster) :=
  (c.endpoint endpointId).map (fun e => (e, { c with
    endpoints := c.endpoints.filter (fun e => e.id ≠ endpointId)
    distinct := c.distinct.sublist (List.filter_sublist.map _) }))

variable (state : EndpointState)

def endpointsWithState : List UpstreamEndpoint :=
  c.endpoints.map (fun e => if e.id = endpointId then e.withState state else e)

theorem ids_endpointsWithState : (c.endpointsWithState endpointId state).map (·.id) = c.endpoints.map (·.id) := by
  rw [endpointsWithState, List.map_map]
  congr 1
  funext e
  change (if e.id = endpointId then e.withState state else e).id = e.id
  by_cases h : e.id = endpointId
  · rw [if_pos h]; rfl
  · rw [if_neg h]

def setEndpointState : Option UpstreamCluster :=
  match c.endpoint endpointId with
  | none   => none
  | some e =>
    if e.state = state then none
    else some { c with
      endpoints := c.endpointsWithState endpointId state
      distinct := by rw [c.ids_endpointsWithState]; exact c.distinct }

end UpstreamCluster

/-! ## The registry -/

inductive EndpointRegistryError
  | duplicateCluster (cluster : UpstreamClusterName)
  | duplicateEndpoint (cluster : UpstreamClusterName) (endpointId : UpstreamEndpointId)
  | clusterNotFound (cluster : UpstreamClusterName)
  | endpointNotFound (cluster : UpstreamClusterName) (endpointId : UpstreamEndpointId)
  | invalidDefinition (error : UpstreamModelError)
deriving DecidableEq, Repr

/-- The count of rejected definitions wraps at 64 bits. -/
structure EndpointRegistry where
  clusters : SortedMap UpstreamClusterName UpstreamCluster
  invalidDefinitionCount : ℕ

namespace EndpointRegistry

def new : EndpointRegistry := ⟨.empty, 0⟩

variable (r : EndpointRegistry) (clusterName : UpstreamClusterName)

def cluster : Option UpstreamCluster := r.clusters.get? clusterName

def incrementInvalidDefinitionCount : EndpointRegistry :=
  { r with invalidDefinitionCount := wrapAdd r.invalidDefinitionCount 1 }

variable (c : UpstreamCluster)

def withCluster : EndpointRegistry :=
  { r with clusters := r.clusters.insert clusterName c }

def insertCluster : Except EndpointRegistryError Unit × EndpointRegistry :=
  match r.cluster c.name with
  | some _ => (.error (.duplicateCluster c.name), r.incrementInvalidDefinitionCount)
  | none   => (.ok (), r.withCluster c.name c)

def removeCluster : Option UpstreamCluster × EndpointRegistry :=
  (r.cluster clusterName, { r with clusters := r.clusters.erase clusterName })

def insertEndpoint (r : EndpointRegistry) (clusterName : UpstreamClusterName) (e : UpstreamEndpoint) :
    Except EndpointRegistryError Unit × EndpointRegistry :=
  match r.cluster clusterName with
  | none   => (.error (.clusterNotFound clusterName), r)
  | some c => match c.insertEndpoint e with
    | .ok c                            => (.ok (), r.withCluster clusterName c)
    | .error (.duplicateEndpointId _) => (.error (.duplicateEndpoint clusterName e.id), r.incrementInvalidDefinitionCount)
    | .error error                     => (.error (.invalidDefinition error), r.incrementInvalidDefinitionCount)

def removeEndpoint (r : EndpointRegistry) (clusterName : UpstreamClusterName) (endpointId : UpstreamEndpointId) :
    Except EndpointRegistryError UpstreamEndpoint × EndpointRegistry :=
  match r.cluster clusterName with
  | none   => (.error (.clusterNotFound clusterName), r)
  | some c => match c.removeEndpoint endpointId with
    | none        => (.error (.endpointNotFound clusterName endpointId), r)
    | some (e, c) => (.ok e, r.withCluster clusterName c)

def setEndpointState (r : EndpointRegistry) (clusterName : UpstreamClusterName) (endpointId : UpstreamEndpointId)
    (state : EndpointState) : Except EndpointRegistryError Unit × EndpointRegistry :=
  match r.cluster clusterName with
  | none   => (.error (.clusterNotFound clusterName), r)
  | some c => match c.setEndpointState endpointId state with
    | none   => (.error (.endpointNotFound clusterName endpointId), r)
    | some c => (.ok (), r.withCluster clusterName c)

/-! ## The identifiers under a name

What each operation does to the identifiers registered under a name; a cluster that is not there has none. -/

def ids : List UpstreamEndpointId :=
  match r.cluster clusterName with
  | none   => []
  | some c => c.endpoints.map (·.id)

variable {n : UpstreamClusterName}

theorem ids_of_cluster {r : EndpointRegistry} {c : UpstreamCluster} (h : r.cluster n = some c) : r.ids n = c.endpoints.map (·.id) := by
  rw [ids, h]

theorem ids_of_none {r : EndpointRegistry} (h : r.cluster n = none) : r.ids n = [] := by
  rw [ids, h]

theorem ids_nodup (n : UpstreamClusterName) : (r.ids n).Nodup := by
  cases h : r.cluster n with
  | none => rw [ids_of_none h]; exact .nil
  | some c => rw [ids_of_cluster h]; exact c.distinct

variable (name : UpstreamClusterName)

theorem cluster_withCluster (n : UpstreamClusterName) (c : UpstreamCluster) :
    (r.withCluster name c).cluster n = if n = name then some c else r.cluster n := r.clusters.get?_insert name n c

theorem ids_withCluster (n : UpstreamClusterName) (c : UpstreamCluster) :
    (r.withCluster name c).ids n = if n = name then c.endpoints.map (·.id) else r.ids n := by
  by_cases h : n = name
  · rw [if_pos h]
    exact ids_of_cluster (by rw [cluster_withCluster, if_pos h])
  · rw [if_neg h, ids, ids, cluster_withCluster, if_neg h]

theorem ids_insertCluster : ((r.insertCluster c).1 = .ok () ∧ r.ids c.name = [] ∧
      ∀ n, (r.insertCluster c).2.ids n = if n = c.name then c.endpoints.map (·.id) else r.ids n) ∨
    (∃ error, (r.insertCluster c).1 = .error error) ∧ ∀ n, (r.insertCluster c).2.ids n = r.ids n := by
  unfold insertCluster
  cases h : r.cluster c.name with
  | none => exact .inl ⟨rfl, ids_of_none h, fun n => r.ids_withCluster c.name n c⟩
  | some _ => exact .inr ⟨⟨_, rfl⟩, fun _ => rfl⟩

theorem ids_removeCluster (n : UpstreamClusterName) : (r.removeCluster name).2.ids n = if n = name then [] else r.ids n := by
  have hcl : (r.removeCluster name).2.cluster n = if n = name then none else r.cluster n := r.clusters.get?_erase name n
  by_cases h : n = name
  · rw [if_pos h]
    exact ids_of_none (by rw [hcl, if_pos h])
  · rw [if_neg h, ids, ids, hcl, if_neg h]

theorem ids_insertEndpoint (e : UpstreamEndpoint) : ((r.insertEndpoint name e).1 = .ok () ∧
      ∀ n, (r.insertEndpoint name e).2.ids n = if n = name then r.ids n ++ [e.id] else r.ids n) ∨
    (∃ error, (r.insertEndpoint name e).1 = .error error) ∧ ∀ n, (r.insertEndpoint name e).2.ids n = r.ids n := by
  unfold insertEndpoint
  cases hc : r.cluster name with
  | none => exact .inr ⟨⟨_, rfl⟩, fun _ => rfl⟩
  | some c =>
    unfold UpstreamCluster.insertEndpoint
    rw [e.validate_eq]
    by_cases hdup : c.endpoints.any (fun old => old.id = e.id) = true
    · simp only [dif_pos hdup]
      exact .inr ⟨⟨_, rfl⟩, fun _ => rfl⟩
    · simp only [dif_neg hdup]
      refine .inl ⟨trivial, fun n => ?_⟩
      rw [ids_withCluster]
      by_cases h : n = name
      · rw [if_pos h, if_pos h, h, ids_of_cluster hc, List.map_append, List.map_singleton]
      · rw [if_neg h, if_neg h]

theorem ids_removeEndpoint (id : UpstreamEndpointId) : ((∃ e, (r.removeEndpoint name id).1 = .ok e) ∧
      ∀ n, (r.removeEndpoint name id).2.ids n = if n = name then (r.ids n).filter (fun id' => id' ≠ id) else r.ids n) ∨
    (∃ error, (r.removeEndpoint name id).1 = .error error) ∧ ∀ n, (r.removeEndpoint name id).2.ids n = r.ids n := by
  unfold removeEndpoint
  cases hc : r.cluster name with
  | none => exact .inr ⟨⟨_, rfl⟩, fun _ => rfl⟩
  | some c =>
    unfold UpstreamCluster.removeEndpoint
    cases he : c.endpoint id with
    | none =>
      refine .inr ⟨⟨.endpointNotFound name id, ?_⟩, fun n => ?_⟩ <;> simp only [he, Option.map_none]
    | some e =>
      simp only [he, Option.map_some, ids_withCluster]
      refine .inl ⟨⟨e, rfl⟩, fun n => ?_⟩
      by_cases h : n = name
      · rw [if_pos h, if_pos h, h, ids_of_cluster hc, List.filter_map]
        rfl
      · rw [if_neg h, if_neg h]

theorem ids_setEndpointState {id : UpstreamEndpointId} {state : EndpointState} :
    (r.setEndpointState name id state).2.ids n = r.ids n := by
  unfold setEndpointState
  cases hc : r.cluster name with
  | none => rfl
  | some c =>
    unfold UpstreamCluster.setEndpointState
    cases he : c.endpoint id with
    | none => simp only [he]
    | some e =>
      by_cases hsta : e.state = state
      · simp only [he, if_pos hsta]
      · simp only [he, if_neg hsta, ids_withCluster, UpstreamCluster.ids_endpointsWithState]
        by_cases h : n = name
        · rw [if_pos h, h, ids_of_cluster hc]
        · rw [if_neg h]

/-! ## The endpoint under a name

The registry as a map from cluster and identifier to the endpoint registered there: each operation changes it at one place
and keeps which clusters there are. -/

def lookup (endpointId : UpstreamEndpointId) :
    Option UpstreamEndpoint := (r.cluster clusterName).bind (·.endpoint endpointId)

structure SetAt (r r' : EndpointRegistry) (n : UpstreamClusterName) (id : UpstreamEndpointId) (e : Option UpstreamEndpoint) :
    Prop where
  lookup_eq : ∀ m i, r'.lookup m i = if m = n ∧ i = id then e else r.lookup m i
  clusters_eq : ∀ m, (r'.cluster m).isSome = (r.cluster m).isSome

theorem lookup_of_cluster {r : EndpointRegistry} {c : UpstreamCluster} (h : r.cluster n = some c) (id : UpstreamEndpointId) :
    r.lookup n id = c.endpoint id := by
  rw [lookup, h, Option.bind_some]

theorem lookup_of_none {r : EndpointRegistry} (h : r.cluster n = none) (id : UpstreamEndpointId) : r.lookup n id = none := by
  rw [lookup, h, Option.bind_none]

variable {e : UpstreamEndpoint}

theorem endpoint_id {c : UpstreamCluster} {id : UpstreamEndpointId} (h : c.endpoint id = some e) : e.id = id := by
  simpa using List.find?_some h

theorem setAt_self {r : EndpointRegistry} {id : UpstreamEndpointId} {e : Option UpstreamEndpoint} (h : r.lookup n id = e) :
    r.SetAt r n id e := by
  refine ⟨fun m i => ?_, fun _ => rfl⟩
  split
  · rename_i hat
    rw [hat.1, hat.2, h]
  · rfl

theorem setAt_withCluster {r : EndpointRegistry} {c c' : UpstreamCluster} (hc : r.cluster n = some c)
    {id : UpstreamEndpointId} {e : Option UpstreamEndpoint} (h : ∀ i, c'.endpoint i = if i = id then e else c.endpoint i) :
    r.SetAt (r.withCluster n c') n id e := by
  refine ⟨fun m i => ?_, fun m => ?_⟩
  · by_cases hm : m = n
    · subst hm
      have hcl : (r.withCluster m c').cluster m = some c' := by rw [cluster_withCluster, if_pos rfl]
      rw [lookup_of_cluster hcl, h i, lookup_of_cluster hc]
      simp
    · rw [lookup, cluster_withCluster, if_neg hm, if_neg (fun hat => hm hat.1), lookup]
  · rw [cluster_withCluster]
    split
    · rename_i hm
      rw [hm, hc]
      rfl
    · rfl

theorem insertEndpoint_of_none {r : EndpointRegistry} (h : (r.cluster n).isSome = false) (e : UpstreamEndpoint) :
    r.insertEndpoint n e = (.error (.clusterNotFound n), r) := by
  rw [insertEndpoint, Option.isSome_eq_false_iff.1 h |> Option.isNone_iff_eq_none.1]

theorem insertEndpoint_of_taken {r : EndpointRegistry} (h : (r.lookup n e.id).isSome = true) :
    r.insertEndpoint n e = (.error (.duplicateEndpoint n e.id), r.incrementInvalidDefinitionCount) := by
  cases hc : r.cluster n with
  | none =>
    rw [lookup_of_none hc] at h
    cases h
  | some c =>
    rw [lookup_of_cluster hc] at h
    obtain ⟨taken, htak⟩ := Option.isSome_iff_exists.1 h
    have hany : c.endpoints.any (fun old => old.id = e.id) = true :=
      List.any_eq_true.2 ⟨taken, List.mem_of_find?_eq_some htak, decide_eq_true (endpoint_id htak)⟩
    simp only [insertEndpoint, hc, UpstreamCluster.insertEndpoint, e.validate_eq, dif_pos hany]

theorem insertEndpoint_of_free {r : EndpointRegistry} (hcl : (r.cluster n).isSome = true) (h : r.lookup n e.id = none) :
    ∃ r', r.insertEndpoint n e = (.ok (), r') ∧ r.SetAt r' n e.id (some e) := by
  obtain ⟨c, hc⟩ := Option.isSome_iff_exists.1 hcl
  rw [lookup_of_cluster hc] at h
  have hn : ∀ old ∈ c.endpoints, old.id ≠ e.id := fun old hmem => by
    have := List.find?_eq_none.1 h old hmem
    simpa using this
  have hany : ¬ c.endpoints.any (fun old => old.id = e.id) = true := by
    simp only [List.any_eq_true, decide_eq_true_eq, not_exists, not_and]
    exact hn
  refine ⟨r.withCluster n { c with endpoints := c.endpoints ++ [e], distinct := c.distinct_append hany }, ?_,
    setAt_withCluster hc (fun i => ?_)⟩
  · simp only [insertEndpoint, hc, UpstreamCluster.insertEndpoint, e.validate_eq, dif_neg hany]
  · unfold UpstreamCluster.endpoint at h ⊢
    rw [List.find?_append]
    by_cases hi : i = e.id
    · rw [hi, h]
      simp
    · rw [if_neg hi, List.find?_singleton, if_neg (by simpa using fun he => hi he.symm), Option.or_none]

theorem removeEndpoint_of_none {r : EndpointRegistry} {id : UpstreamEndpointId} (h : r.lookup n id = none) :
    r.removeEndpoint n id = (.error (.clusterNotFound n), r) ∨ r.removeEndpoint n id = (.error (.endpointNotFound n id), r) := by
  cases hc : r.cluster n with
  | none => exact .inl (by rw [removeEndpoint, hc])
  | some c =>
    rw [lookup_of_cluster hc] at h
    exact .inr (by simp only [removeEndpoint, hc, UpstreamCluster.removeEndpoint, h, Option.map_none])

theorem removeEndpoint_of_some {r : EndpointRegistry} {id : UpstreamEndpointId} (h : r.lookup n id = some e) :
    ∃ r', r.removeEndpoint n id = (.ok e, r') ∧ r.SetAt r' n id none := by
  cases hc : r.cluster n with
  | none =>
    rw [lookup_of_none hc] at h
    cases h
  | some c =>
    rw [lookup_of_cluster hc] at h
    refine ⟨_, by simp only [removeEndpoint, hc, UpstreamCluster.removeEndpoint, h, Option.map_some]; rfl,
      setAt_withCluster hc (fun i => ?_)⟩
    show (c.endpoints.filter (fun e => e.id ≠ id)).find? (fun e => e.id = i) = _
    rw [List.find?_filter]
    split_ifs with hi
    · rw [List.find?_eq_none]
      simp [hi]
    · refine congrArg (fun p => c.endpoints.find? p) (funext fun old => ?_)
      by_cases hex : old.id = i
      · simp [hex, hi]
      · simp [hex]

theorem setEndpointState_spec (n : UpstreamClusterName) (id : UpstreamEndpointId) (state : EndpointState) :
    ((r.setEndpointState n id state).1 = .ok () ∨ (r.setEndpointState n id state).1 = .error (.clusterNotFound n) ∨
        (r.setEndpointState n id state).1 = .error (.endpointNotFound n id)) ∧
      r.SetAt (r.setEndpointState n id state).2 n id ((r.lookup n id).map (·.withState state)) := by
  cases hc : r.cluster n with
  | none =>
    rw [setEndpointState, hc]
    exact ⟨.inr (.inl rfl), setAt_self (by rw [lookup_of_none hc]; rfl)⟩
  | some c =>
    cases he : c.endpoint id with
    | none =>
      simp only [setEndpointState, hc, UpstreamCluster.setEndpointState, he]
      exact ⟨.inr (.inr trivial), setAt_self (by rw [lookup_of_cluster hc, he]; rfl)⟩
    | some e =>
      by_cases hsta : e.state = state
      · simp only [setEndpointState, hc, UpstreamCluster.setEndpointState, he, if_pos hsta]
        refine ⟨.inr (.inr trivial), setAt_self ?_⟩
        rw [lookup_of_cluster hc, he, ← hsta]
        rfl
      · simp only [setEndpointState, hc, UpstreamCluster.setEndpointState, he, if_neg hsta]
        refine ⟨.inl trivial, setAt_withCluster hc (fun i => ?_)⟩
        show (c.endpoints.map (fun e => if e.id = id then e.withState state else e)).find? (fun e => e.id = i) = _
        have hids : ∀ old : UpstreamEndpoint, (if old.id = id then old.withState state else old).id =
            old.id := fun old => by split <;> rfl
        rw [List.find?_map]
        simp only [Function.comp_def, hids]
        show (c.endpoint i).map _ = _
        split_ifs with hi
        · rw [lookup_of_cluster hc, hi, he, Option.map_some, Option.map_some, if_pos (endpoint_id he)]
        · cases hfd : c.endpoint i with
          | none => rfl
          | some found => rw [Option.map_some, if_neg (by rw [endpoint_id hfd]; exact hi)]

end EndpointRegistry

end WayBalancer
