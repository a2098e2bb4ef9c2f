import Swarmlite.Lib.Loop
import Swarmlite.Lib.Versions
import Swarmlite.Core.Reports

/-!
# Choosing a snapshot to recover from — `swarmlite-node/src/lib.rs`, `core/src/model.rs`

Gateways keep the recovery snapshot of the assignment they run. When the control
plane is initialised again, the snapshots of all gateways of the cluster are
collected and the newest valid one is chosen; two different snapshots of the newest
generation are a conflict that stops the recovery.

Mirroring notes:
- `tcp_ports.insert` is membership and insertion; the set runs through all stacks.
- The first stack that fails decides the message, and in it the first check.
-/

namespace Swarmlite

open Ordered Loop

variable {ports ports' : Keys Nat} {formatVersion : Nat} {clusterId : String}

/-! ## Validation -/

/-- A TCP listener of a snapshot; the ports seen so far are distinct. -/
def checkRecoveredListener (formatVersion : Nat) (ports : Keys Nat) (route : TcpRouteSpec) :
    Except String (Keys Nat) :=
  if formatVersion < 2 || route.listen = 0
      || route.listen = 80 || route.listen = 443 || (2019 ≤ route.listen && route.listen ≤ 2021)
      || ports.contains route.listen then
    .error "invalid, reserved or duplicate TCP listener in recovery snapshot"
  else .ok (ports.insert route.listen)

/-- `address:published_port` with a port above zero. -/
def validUpstream (upstream : String) : Bool :=
  ((Text.rsplitOnce ':' upstream).filter fun parts => !parts.1.isEmpty).any fun parts =>
    (Text.parseUnsigned 65535 parts.2).any fun port => port != 0

/-- Each element is smaller than the next. -/
def strictlySorted : List String → Bool
  | a :: b :: rest => a < b && strictlySorted (b :: rest)
  | _ => true

def checkRecoveredUpstreams (stackKey : String) (entry : ServicePortKey × List String) :
    Except String Unit := do
  let key := entry.1.service ++ ":" ++ toString entry.1.targetPort ++ ":" ++ entry.1.protocol
  ensure (strictlySorted entry.2)
    ("recovered stack " ++ Text.quoted stackKey ++ " upstreams for " ++ key
      ++ " are not sorted and unique")
  ensure (entry.2.all validUpstream)
    ("recovered stack " ++ Text.quoted stackKey
      ++ " has an invalid address:published_port upstream for " ++ key)

def checkRecoveredStack (formatVersion : Nat) (ports : Keys Nat)
    (entry : String × RecoveredStackGateway) : Except String (Keys Nat) := do
  let ports ← entry.2.gateway.tcpRoutes.foldlM (checkRecoveredListener formatVersion) ports
  ensure (validateStackName entry.1)
    ("invalid recovered stack " ++ Text.quoted entry.1 ++ ": " ++ validateStackNameError)
  ensure (Keys.ofElems entry.2.upstreams.keys = Keys.ofElems entry.2.gateway.portKeys)
    ("recovered stack " ++ Text.quoted entry.1
      ++ " upstream keys do not match its service backends")
  entry.2.upstreams.rows.forM (checkRecoveredUpstreams entry.1)
  return ports

/-- `validate_for_cluster`. -/
def GatewayRecoverySnapshot.validateForCluster (snapshot : GatewayRecoverySnapshot)
    (clusterId : String) : Except String Unit := do
  ensure (snapshot.formatVersion = 1 || snapshot.formatVersion = 2)
    ("unsupported gateway recovery snapshot format " ++ toString snapshot.formatVersion
      ++ "; expected 1 or 2")
  ensure (snapshot.clusterId = clusterId)
    ("gateway recovery snapshot belongs to cluster " ++ snapshot.clusterId ++ ", not " ++ clusterId)
  ensure (snapshot.generation != 0) "gateway recovery snapshot generation must be positive"
  let _ ← snapshot.stackRoutes.rows.foldlM (checkRecoveredStack snapshot.formatVersion) Table.empty

/-! ## What validation accepts -/

theorem checkRecoveredListener_iff
    {route : TcpRouteSpec} : checkRecoveredListener formatVersion ports route = .ok ports' ↔
      2 ≤ formatVersion ∧ reservedPort route.listen = false ∧ route.listen ∉ ports ∧
        ports.insert route.listen = ports' := by
  have hcon : (decide (formatVersion < 2) || decide (route.listen = 0)
      || decide (route.listen = 80) || decide (route.listen = 443)
      || (decide (2019 ≤ route.listen) && decide (route.listen ≤ 2021))
      || ports.contains route.listen)
      = (decide (formatVersion < 2) || reservedPort route.listen || ports.contains route.listen) := by
    unfold reservedPort
    simp only [Bool.or_assoc]
  unfold checkRecoveredListener
  rw [hcon, ← Keys.contains_iff_mem]
  by_cases hfor : formatVersion < 2
  · simp [hfor]
  · cases reservedPort route.listen <;> cases ports.contains route.listen <;>
      simp [hfor, Nat.not_lt.mp hfor]

/-- A loop that collects keys and refuses one it has already: it ends well exactly when
every element passes its own check and all keys are different. -/
theorem foldlM_distinct {α κ ε : Type} [LinearOrder κ] {f : Keys κ → α → Except ε (Keys κ)}
    {valid : α → Prop} {keys : α → List κ}
    (hf : ∀ seen seen' x, f seen x = .ok seen' ↔ valid x ∧ (keys x).Nodup ∧
      (∀ k ∈ keys x, k ∉ seen) ∧ (keys x).foldl Table.insert seen = seen') {l : List α} :
    ∀ {seen seen' : Keys κ}, l.foldlM f seen = .ok seen' ↔ (∀ x ∈ l, valid x) ∧
      (l.flatMap keys).Nodup ∧ (∀ k ∈ l.flatMap keys, k ∉ seen) ∧
      (l.flatMap keys).foldl Table.insert seen = seen' := by
  induction l with
  | nil =>
    intro seen seen'
    simp [pure, Except.pure]
  | cons x l ih =>
    intro seen seen'
    rw [List.foldlM_cons, List.flatMap_cons, List.nodup_append, List.foldl_append]
    constructor
    · intro h
      obtain ⟨mid, hmid, hrest⟩ := bind_ok h
      obtain ⟨hvali, hnodu, hfree, rfl⟩ := (hf _ _ _).mp hmid
      obtain ⟨hval, hnod, hfre, rfl⟩ := ih.mp hrest
      refine ⟨List.forall_mem_cons.mpr ⟨hvali, hval⟩, ⟨hnodu, hnod, ?_⟩, ?_, rfl⟩
      · intro k hk k' hk' heq
        exact hfre k' hk' (Keys.mem_foldl_insert_iff.mpr (.inr (heq ▸ hk)))
      · intro k hk
        rcases List.mem_append.mp hk with hk | hk
        · exact hfree k hk
        · exact fun hseen => hfre k hk (Keys.mem_foldl_insert_iff.mpr (.inl hseen))
    · intro h
      obtain ⟨hvali, ⟨hnodu, hnod, hapa⟩, hfree, hlast⟩ := h
      obtain ⟨hvali, hval⟩ := List.forall_mem_cons.mp hvali
      have hfir : f seen x = .ok ((keys x).foldl Table.insert seen) :=
        (hf _ _ _).mpr ⟨hvali, hnodu, fun k hk => hfree k (List.mem_append_left _ hk), rfl⟩
      rw [hfir]
      refine ih.mpr ⟨hval, hnod, fun k hk hseen => ?_, hlast⟩
      rcases Keys.mem_foldl_insert_iff.mp hseen with hseen | hseen
      · exact hfree k (List.mem_append_right _ hk) hseen
      · exact hapa k hseen k hk rfl

/-- One stack of a snapshot, apart from the ports of the others. -/
structure RecoveredStackValid (formatVersion : Nat) (entry : String × RecoveredStackGateway) :
    Prop where
  usable : ∀ route ∈ entry.2.gateway.tcpRoutes,
    2 ≤ formatVersion ∧ reservedPort route.listen = false
  name : validateStackName entry.1 = true
  keys : Keys.ofElems entry.2.upstreams.keys = Keys.ofElems entry.2.gateway.portKeys
  upstreams : ∀ row ∈ entry.2.upstreams.rows,
    strictlySorted row.2 = true ∧ row.2.all validUpstream = true

theorem checkListeners_iff {routes : List TcpRouteSpec} :
    routes.foldlM (checkRecoveredListener formatVersion) ports = .ok ports' ↔
      (∀ route ∈ routes, 2 ≤ formatVersion ∧ reservedPort route.listen = false) ∧
        (routes.map TcpRouteSpec.listen).Nodup ∧
        (∀ port ∈ routes.map TcpRouteSpec.listen, port ∉ ports) ∧
        (routes.map TcpRouteSpec.listen).foldl Table.insert ports = ports' := by
  rw [List.map_eq_flatMap]
  refine foldlM_distinct fun seen seen' route => ?_
  rw [checkRecoveredListener_iff, List.forall_mem_singleton, and_iff_right (List.nodup_singleton _),
    and_assoc]
  rfl

theorem checkRecoveredUpstreams_iff {stackKey : String} {entry : ServicePortKey × List String} :
    checkRecoveredUpstreams stackKey entry = .ok () ↔
      strictlySorted entry.2 = true ∧ entry.2.all validUpstream = true := by
  unfold checkRecoveredUpstreams
  dsimp only
  rw [bind_ok_iff, ensure_ok_iff]
  constructor
  · intro h
    obtain ⟨_, hsor, hval⟩ := h
    exact ⟨ensure_ok hsor, hval⟩
  · intro h
    exact ⟨(), ensure_ok_iff.mpr h.1, h.2⟩

theorem checkRecoveredStack_iff {entry : String × RecoveredStackGateway} :
    checkRecoveredStack formatVersion ports entry = .ok ports' ↔
      RecoveredStackValid formatVersion entry ∧ entry.2.gateway.listens.Nodup ∧
        (∀ port ∈ entry.2.gateway.listens, port ∉ ports) ∧
        entry.2.gateway.listens.foldl Table.insert ports = ports' := by
  unfold checkRecoveredStack
  constructor
  · intro h
    obtain ⟨mid, hlis, h⟩ := bind_ok h
    obtain ⟨_, hname, h⟩ := bind_ok h
    obtain ⟨_, hkeys, h⟩ := bind_ok h
    obtain ⟨_, hups, h⟩ := bind_ok h
    cases h
    obtain ⟨husa, hnod, hfree, hpor⟩ := checkListeners_iff.mp hlis
    refine ⟨⟨husa, ensure_ok hname, of_decide_eq_true (ensure_ok hkeys), fun row hrow => ?_⟩,
      hnod, hfree, hpor⟩
    exact checkRecoveredUpstreams_iff.mp (forM_ok_iff.mp hups row hrow)
  · intro h
    obtain ⟨hval, hnod, hfree, hpor⟩ := h
    refine bind_ok_iff.mpr ⟨ports', checkListeners_iff.mpr ⟨hval.usable, hnod, hfree, hpor⟩, ?_⟩
    refine bind_ok_iff.mpr ⟨(), ensure_ok_iff.mpr hval.name, ?_⟩
    refine bind_ok_iff.mpr ⟨(), ensure_ok_iff.mpr (decide_eq_true hval.keys), ?_⟩
    refine bind_ok_iff.mpr ⟨(), forM_ok_iff.mpr fun row hrow => ?_, rfl⟩
    exact checkRecoveredUpstreams_iff.mpr (hval.upstreams row hrow)

theorem checkRecoveredStacks_iff {rows : List (String × RecoveredStackGateway)} :
    rows.foldlM (checkRecoveredStack formatVersion) ports = .ok ports' ↔
      (∀ entry ∈ rows, RecoveredStackValid formatVersion entry) ∧
        (rows.flatMap fun entry => entry.2.gateway.listens).Nodup ∧
        (∀ port ∈ rows.flatMap fun entry => entry.2.gateway.listens, port ∉ ports) ∧
        (rows.flatMap fun entry => entry.2.gateway.listens).foldl Table.insert ports = ports' := by
  refine foldlM_distinct fun seen seen' entry => ?_
  exact checkRecoveredStack_iff

/-- What `validate_for_cluster` establishes. Hostnames are not among it. -/
structure SnapshotValid (snapshot : GatewayRecoverySnapshot) (clusterId : String) : Prop where
  format : snapshot.formatVersion = 1 ∨ snapshot.formatVersion = 2
  cluster : snapshot.clusterId = clusterId
  generation : snapshot.generation ≠ 0
  members : ∀ entry ∈ snapshot.stackRoutes.rows, RecoveredStackValid snapshot.formatVersion entry
  listens : (snapshot.stackRoutes.rows.flatMap fun entry => entry.2.gateway.listens).Nodup

/-- **Validation accepts exactly the valid snapshots.** -/
theorem validateForCluster_iff {snap : GatewayRecoverySnapshot} :
    snap.validateForCluster clusterId = .ok () ↔ SnapshotValid snap clusterId := by
  unfold GatewayRecoverySnapshot.validateForCluster
  constructor
  · intro h
    obtain ⟨_, hfor, h⟩ := bind_ok h
    obtain ⟨_, hclu, h⟩ := bind_ok h
    obtain ⟨_, hgen, h⟩ := bind_ok h
    obtain ⟨ports, hsta, -⟩ := bind_ok h
    obtain ⟨hmem, hlis, -⟩ := checkRecoveredStacks_iff.mp hsta
    exact ⟨by simpa using ensure_ok hfor, of_decide_eq_true (ensure_ok hclu),
      by simpa using ensure_ok hgen, hmem, hlis⟩
  · intro h
    refine bind_ok_iff.mpr ⟨(), ensure_ok_iff.mpr (by simpa using h.format), ?_⟩
    refine bind_ok_iff.mpr ⟨(), ensure_ok_iff.mpr (decide_eq_true h.cluster), ?_⟩
    refine bind_ok_iff.mpr ⟨(), ensure_ok_iff.mpr (by simpa using h.generation), ?_⟩
    exact bind_ok_iff.mpr ⟨_, checkRecoveredStacks_iff.mpr
      ⟨h.members, h.listens, fun _ _ => Table.mem_empty, rfl⟩, rfl⟩

/-! ## Selection -/

/-- The valid snapshots, and what is wrong with the others. A snapshot of another
cluster is an error of its own. -/
def sortSnapshots (clusterId : String) :
    List GatewayRecoverySnapshot → Except String (List GatewayRecoverySnapshot × List String)
  | [] => .ok ([], [])
  | snapshot :: snapshots =>
    match snapshot.validateForCluster clusterId with
    | .ok () => do
      let sorted ← sortSnapshots clusterId snapshots
      return (snapshot :: sorted.1, sorted.2)
    | .error error =>
      if snapshot.clusterId ≠ clusterId then .error error
      else do
        let sorted ← sortSnapshots clusterId snapshots
        return (sorted.1, error :: sorted.2)

/-- `select_gateway_recovery_snapshot`. -/
def selectGatewayRecoverySnapshot (clusterId : String)
    (snapshots : List GatewayRecoverySnapshot) : Except String GatewayRecoverySnapshot := do
  let sorted ← sortSnapshots clusterId snapshots
  match (sorted.1.map GatewayRecoverySnapshot.generation).max? with
  | none =>
    let detail := if sorted.2.isEmpty then "" else " (" ++ String.intercalate "; " sorted.2 ++ ")"
    .error ("recovery found no valid Gateway route snapshot for cluster " ++ clusterId ++ detail
      ++ "; refusing to initialize a Controller that could publish an empty Gateway configuration")
  | some highest =>
    match sorted.1.filter fun snapshot => snapshot.generation = highest with
    | [] => .error "highest generation exists"
    | selected :: latest =>
      if latest.any (· ≠ selected) then
        .error ("Gateway recovery conflict: generation " ++ toString highest
          ++ " has different contents on multiple Gateways; refusing automatic recovery")
      else .ok selected

/-- Those that pass. -/
def validSnapshots (clusterId : String) (snapshots : List GatewayRecoverySnapshot) :
    List GatewayRecoverySnapshot :=
  snapshots.filter fun snapshot => snapshot.validateForCluster clusterId = .ok ()

variable {snapshots good : List GatewayRecoverySnapshot} {snap : GatewayRecoverySnapshot}

theorem mem_validSnapshots :
    snap ∈ validSnapshots clusterId snapshots ↔
      snap ∈ snapshots ∧ snap.validateForCluster clusterId = .ok () := by
  simp [validSnapshots]

theorem sortSnapshots_iff : (∃ bad, sortSnapshots clusterId snapshots = .ok (good, bad)) ↔
    (∀ snap ∈ snapshots, snap.clusterId = clusterId) ∧
      good = validSnapshots clusterId snapshots := by
  induction snapshots generalizing good with
  | nil => simp [sortSnapshots, validSnapshots, eq_comm]
  | cons first snapshots ih =>
    rw [List.forall_mem_cons, validSnapshots, List.filter_cons, ← validSnapshots]
    unfold sortSnapshots
    split
    next hval =>
      rw [if_pos (decide_eq_true hval), and_assoc,
        and_iff_right (validateForCluster_iff.mp hval).cluster]
      constructor
      · intro ⟨bad, h⟩
        obtain ⟨rest, hrest, h⟩ := bind_ok h
        cases h
        exact (ih.mp ⟨rest.2, hrest⟩).imp id (congrArg (first :: ·))
      · intro ⟨hall, heq⟩
        obtain ⟨bad, hrest⟩ := ih.mpr ⟨hall, rfl⟩
        exact ⟨bad, by rw [hrest, heq]; rfl⟩
    next error hval =>
      have hbad : ¬decide (first.validateForCluster clusterId = .ok ()) = true := by simp [hval]
      rw [if_neg hbad]
      split
      next hclu => simp [hclu]
      next hclu =>
        rw [and_iff_right (not_not.mp hclu), ← ih]
        constructor
        · intro ⟨bad, h⟩
          obtain ⟨rest, hrest, h⟩ := bind_ok h
          cases h
          exact ⟨rest.2, hrest⟩
        · intro ⟨bad, hrest⟩
          exact ⟨error :: bad, by rw [hrest]; rfl⟩

theorem selectGatewayRecoverySnapshot_iff :
    selectGatewayRecoverySnapshot clusterId snapshots = .ok snap ↔
      (∀ other ∈ snapshots, other.clusterId = clusterId) ∧
        snap ∈ validSnapshots clusterId snapshots ∧
        ∀ other ∈ validSnapshots clusterId snapshots, other.generation ≤ snap.generation ∧
          (other.generation = snap.generation → other = snap) := by
  rw [← Versions.newest_iff]
  unfold selectGatewayRecoverySnapshot
  constructor
  · intro h
    obtain ⟨⟨good, bad⟩, hsor, h⟩ := bind_ok h
    obtain ⟨hclu, rfl⟩ := sortSnapshots_iff.mp ⟨bad, hsor⟩
    refine ⟨hclu, ?_⟩
    split at h
    · cases h
    next highest hmax =>
      split at h
      · cases h
      next selected latest hlat =>
        split at h
        · cases h
        next hsame =>
          cases h
          exact ⟨highest, latest, hmax, hlat, by simpa using hsame⟩
  · intro ⟨hclu, highest, latest, hmax, hlat, hsame⟩
    obtain ⟨bad, hsor⟩ := sortSnapshots_iff.mpr ⟨hclu, rfl⟩
    refine bind_ok_iff.mpr ⟨_, hsor, ?_⟩
    dsimp only
    rw [hmax]
    dsimp only
    rw [hlat]
    exact if_neg (by simpa using hsame)

/-- The chosen snapshot is one of those collected, and valid. -/
theorem selectGatewayRecoverySnapshot_ok
    (h : selectGatewayRecoverySnapshot clusterId snapshots = .ok snap) :
    snap ∈ snapshots ∧ snap.validateForCluster clusterId = .ok () :=
  mem_validSnapshots.mp (selectGatewayRecoverySnapshot_iff.mp h).2.1

/-- **The newest snapshot is chosen**, and only if the gateways agree on it: every snapshot is of
this cluster, and no other valid one has its generation or a later one. -/
theorem newest_snapshot_selected (clusterId : String) (snapshots : List GatewayRecoverySnapshot)
    (snap : GatewayRecoverySnapshot) :
    selectGatewayRecoverySnapshot clusterId snapshots = .ok snap ↔
      (∀ other ∈ snapshots, other.clusterId = clusterId) ∧
        (snap ∈ snapshots ∧ SnapshotValid snap clusterId) ∧
        ∀ other ∈ snapshots, SnapshotValid other clusterId →
          other.generation ≤ snap.generation ∧
            (other.generation = snap.generation → other = snap) := by
  rw [selectGatewayRecoverySnapshot_iff]
  simp only [mem_validSnapshots, validateForCluster_iff, and_imp]

end Swarmlite
