import Swarmlite.Controller.Ownership

/-!
# TCP routes and the listeners of the gateways

A gateway listens on the addresses of the cluster settings and on the TCP ports of the
stacks. The two must not meet. An apply is checked against the settings in force
(`validateApplyLocked`), so applies, removals and rollbacks keep them apart. A change of the
settings is checked field by field (`checkClusterConfig`) but not against the stacks, and
neither is a recovered snapshot against the settings of the new controller.

`portsClear` is the check that both would have to make. **`tcp_ports_clear`**: wherever it
holds of the changed settings and of the snapshot, ports and listeners never meet.

The settings in use are the stored ones (`Anchored`), so a restart brings back nothing that
was not clear when it was stored.

Mirroring notes: an event carries the settings after the merge of the requested fields. The
merge itself reads one field of the update for each field of the settings, and the deploy
domain is normalised in it.
-/

namespace Swarmlite

open Ordered Relation Loop

variable {plat : Platform} {world : World} {env : Env} {listens : List String}
  {cfg : ControllerConfig} {disk : VersionedState}

/-- No stack asks for, or is served on, the port of one of the addresses. -/
def portsClear (listens : List String) (s : ClusterState) : Bool :=
  (reservedSpecs s).all fun owner => owner.2.tcpRoutes.all fun route =>
    listens.all fun listen => listenPort listen != some route.listen

theorem portsClear_iff {s : ClusterState} : portsClear listens s = true ↔
    ∀ name spec, Claims s name spec → ∀ route ∈ spec.tcpRoutes, ∀ listen ∈ listens,
      listenPort listen ≠ some route.listen := by
  unfold portsClear
  simp only [List.all_eq_true, bne_iff_ne]
  constructor
  · intro h name spec hcla
    exact h (name, spec) (mem_reservedSpecs hcla)
  · intro h owner hown
    refine h owner.1 owner.2 ?_
    unfold reservedSpecs at hown
    rcases List.mem_append.mp hown with hdes | hser
    · obtain ⟨stack, hsta, rfl⟩ := List.mem_map.mp hdes
      refine .desired ?_
      unfold gatewaySpec
      rw [Table.get?_of_mem hsta]
      rfl
    · obtain ⟨entry, hent, rfl⟩ := List.mem_map.mp hser
      exact .served (Map.lookup_eq_some.mpr hent)

/-! ## The check of new settings -/

def maxCaddyDurationSeconds : Nat := 9223372036

def maxGatewayCacheSignedSize : Nat := 9223372036854775807

def maxGatewayCacheAfterRequests : Nat := 8

def maxGatewayCacheSqliteReadConnections : Nat := 16

/-- `image_proxy_config`, with the proxy library as a parameter. -/
def imageProxyConfig (outboundProxy : ClusterProxyConfig → Except String Unit)
    (config : ClusterProxyConfig) : Except String Unit := do
  ensure (!([config.http, config.https, config.all, config.noProxy].reduceOption.any fun value =>
      value = "" || 16 * 1024 < Text.byteLength value || Text.trim value != value
        || value.toList.any Text.isControl))
    "proxy values must contain 1 to 16384 bytes without control characters or surrounding whitespace"
  outboundProxy config

/-- The checks of `update_cluster_config`. -/
def checkClusterConfig (outboundProxy : ClusterProxyConfig → Except String Unit)
    (cluster : ClusterSettings) : Except ControllerError Unit := do
  let gateway := cluster.gateway
  let sqlite := gateway.cache.sqlite
  let admission := gateway.cache.admission
  let outside := fun (setting : Option Nat) (low high : Nat) =>
    setting.any fun value => value < low || high < value
  ensure (!(gateway.listen.isEmpty || gateway.listen.any fun listen =>
      listen = "" || Text.trim listen != listen))
    (.invalid ("gateway.listen must contain at least one non-empty address without surrounding "
      ++ "whitespace"))
  ensure (!outside gateway.cache.maxSizeBytes 1 maxGatewayCacheSignedSize)
    (.invalid ("gateway.cache.max-size-bytes must be between 1 and "
      ++ toString maxGatewayCacheSignedSize))
  ensure (!outside gateway.cache.lowWaterPercent 1 99)
    (.invalid "gateway.cache.low-water-percent must be between 1 and 99")
  ensure (!outside admission.cacheAfterRequests 1 maxGatewayCacheAfterRequests)
    (.invalid ("gateway.cache.admission.cache-after-requests must be between 1 and "
      ++ toString maxGatewayCacheAfterRequests))
  ensure (!outside sqlite.cacheSizeKib 0 maxGatewayCacheSignedSize)
    (.invalid ("gateway.cache.sqlite.cache-size-kib cannot exceed "
      ++ toString maxGatewayCacheSignedSize))
  ensure (!outside sqlite.mmapSizeBytes 0 maxGatewayCacheSignedSize)
    (.invalid ("gateway.cache.sqlite.mmap-size-bytes cannot exceed "
      ++ toString maxGatewayCacheSignedSize))
  ensure (!outside sqlite.readConnections 1 maxGatewayCacheSqliteReadConnections)
    (.invalid ("gateway.cache.sqlite.read-connections must be between 1 and "
      ++ toString maxGatewayCacheSqliteReadConnections))
  ensure (sqlite.busyTimeoutSeconds != some 0)
    (.invalid "gateway.cache.sqlite.busy-timeout-seconds must be greater than zero")
  ensure (sqlite.cleanupIntervalSeconds != some 0)
    (.invalid "gateway.cache.sqlite.cleanup-interval-seconds must be greater than zero")
  ensure (!outside sqlite.journalSizeLimitBytes 1 maxGatewayCacheSignedSize)
    (.invalid ("gateway.cache.sqlite.journal-size-limit-bytes must be between 1 and "
      ++ toString maxGatewayCacheSignedSize))
  ensure (!([gateway.shutdownGracePeriodSeconds, admission.windowSeconds, sqlite.touchWindowSeconds,
      sqlite.busyTimeoutSeconds, sqlite.cleanupIntervalSeconds, gateway.http.readHeaderSeconds,
      gateway.http.readBodySeconds, gateway.http.writeSeconds,
      gateway.http.idleSeconds].any fun setting => outside setting 0 maxCaddyDurationSeconds))
    (.invalid ("Gateway Caddy durations cannot exceed " ++ toString maxCaddyDurationSeconds
      ++ " seconds"))
  ensure (admission.windowSeconds != some 0)
    (.invalid "gateway.cache.admission.window-seconds must be greater than zero")
  ensure (sqlite.touchWindowSeconds != some 0)
    (.invalid "gateway.cache.sqlite.touch-window-seconds must be greater than zero")
  ensure (cluster.imagePrune.intervalSeconds != 0)
    (.invalid "agent.image-prune.interval-seconds must be greater than zero")
  ensure (cluster.deployment.progressDeadlineSeconds != 0)
    (.invalid "deployment.progress-deadline-seconds must be greater than zero")
  ensure (cluster.deployment.imagePullIdleTimeoutSeconds != 0)
    (.invalid "deployment.image-pull.idle-timeout-seconds must be greater than zero")
  ensure (cluster.deployment.imagePullMaxAttempts != 0)
    (.invalid "deployment.image-pull.max-attempts must be greater than zero")
  ensure (cluster.deployment.imagePullInitialBackoffSeconds
      ≤ cluster.deployment.imagePullMaxBackoffSeconds)
    (.invalid ("deployment.image-pull.initial-backoff-seconds cannot exceed "
      ++ "deployment.image-pull.max-backoff-seconds"))
  match imageProxyConfig outboundProxy cluster.proxy with
  | .ok _ => .ok ()
  | .error error => .error (.invalid ("invalid proxy configuration: " ++ error))

/-! ## The settings in use -/

section Settings

variable {plat : Platform} {config : ControllerConfig} {env : Env} {server server' : Server}

theorem commitLocked_cluster (h : commitLocked plat config env server = .ok server') :
    server'.inner.cluster = server.inner.cluster := by
  obtain ⟨snap, -, rfl, -⟩ := commitLocked_ok h
  rfl

theorem Ended.cluster {refreshAt : Int} {scheduled : Pass} {passed : Bool}
    (h : Ended plat config env refreshAt server scheduled passed server')
    (hsch : scheduled.inner.cluster = server.inner.cluster) :
    server'.inner.cluster = server.inner.cluster := by
  have hjud : ∀ {judged}, judge plat config env refreshAt scheduled = .ok judged →
      judged.inner.cluster = server.inner.cluster := by
    intro judged h
    rw [(judge_ok h).1]
    exact hsch
  cases h with
  | unjudged => exact hsch
  | undone h | unchanged h => exact hjud h
  | committed h hcom => exact (commitLocked_cluster hcom).trans (hjud h)
  | refreshed h _ href hinn =>
    obtain ⟨snap, -, rfl⟩ := refreshGatewaySnapshot_ok href
    rcases hinn with rfl | rfl <;> exact hjud h

theorem heartbeat_cluster (srv : Server) (nodeId : String) (body : NodeHeartbeat) :
    (heartbeat plat config env srv nodeId body).1.inner.cluster = srv.inner.cluster := by
  refine heartbeat_rule (P := fun srv' => srv'.inner.cluster = srv.inner.cluster) rfl
    (fun _ _ hend => ?_) fun h hcom => ?_
  · exact hend.cluster (heartbeatScheduled_frame plat config env srv.inner _ body).cluster
  · rw [(commitGatewayAckLocked_ok hcom).1]
    exact h

theorem tick_cluster (srv : Server) :
    (tick plat config env srv).inner.cluster = srv.inner.cluster := by
  obtain ⟨passed, h⟩ := tick_ended plat config env srv
  exact h.cluster rfl

theorem updateClusterConfig_cluster (srv : Server) (cluster : ClusterSettings) :
    (updateClusterConfig plat config env srv cluster).inner.cluster = srv.inner.cluster ∨
      (updateClusterConfig plat config env srv cluster).inner.cluster = cluster := by
  unfold updateClusterConfig
  split
  · exact .inl rfl
  dsimp only
  split
  next srv' hcom => exact .inr (commitLocked_cluster hcom)
  split
  · exact .inl rfl
  · exact .inl rfl

end Settings

/-- Only a change of the settings changes the settings in use. -/
theorem step_cluster (plat : Platform) {event : Event}
    (hfre : FreshIds env world) (hres : ∀ config, event ≠ .restart config) :
    (world.step plat env event).server.inner.cluster = world.server.inner.cluster ∨
      ∃ cluster, event = .updateClusterConfig cluster ∧
        (world.step plat env event).server.inner.cluster = cluster := by
  have hreq : event.isRequest = true →
      (world.step plat env event).server.inner.cluster = world.server.inner.cluster := by
    intro hreq
    have h := step_requested plat hfre hreq
    generalize (world.step plat env event).server = server' at h
    cases h with
    | unchanged => rfl
    | committed _ hcom =>
      rw [commitLocked_cluster hcom]
      rfl
  cases event with
  | heartbeat nodeId body => exact .inl (heartbeat_cluster world.server nodeId body)
  | tick => exact .inl (tick_cluster world.server)
  | updateClusterConfig cluster =>
    exact (updateClusterConfig_cluster world.server cluster).imp id fun h => ⟨cluster, rfl, h⟩
  | restart config => exact absurd rfl (hres config)
  | _ => exact .inl (hreq rfl)

/-- A start keeps the stored addresses. -/
theorem start_listen {srv : Server} (h : start plat cfg env disk = .ok srv) :
    srv.inner.cluster.gateway.listen = disk.cluster.gateway.listen := by
  have hima : (startGateway plat disk).1.listen = disk.cluster.gateway.listen := by
    unfold startGateway refreshManagedGatewayImage
    split <;> rfl
  unfold start at h
  split at h
  · cases h
  dsimp only at h
  split at h
  · cases h
  split at h
  · split at h
    · cases h
    · cases h
      exact hima
  · cases h
    exact hima

/-! ## Runs -/

theorem Reachable.anchored
    (h : Reachable plat world) : Anchored plat world.config world.server := by
  induction h with
  | fresh hok | recovered hok => exact (start_publishes hok).1
  | @step world _ env event hfresh ih =>
    rcases event.ne_restart_or with hres | ⟨config, rfl⟩
    · exact (step_publishes ih hfresh fun config heve => absurd heve (hres config)).1.anchored
    · show Anchored plat (world.restart plat env config).config
        (world.restart plat env config).server
      unfold World.restart
      split
      · exact ih
      next server hok => exact (start_publishes hok).1

/-- Changed settings listen on no port of a stack. -/
def settingsClear (world : World) : Event → Bool
  | .updateClusterConfig cluster => portsClear cluster.gateway.listen world.state
  | _ => true

/-- The invariant of a run: the settings in use are clear of the state in use and of the
stored one. -/
structure ListensApart (server : Server) : Prop where
  state : portsClear server.inner.cluster.gateway.listen server.inner.state = true
  stored : portsClear server.inner.cluster.gateway.listen server.disk.state = true

theorem portsClear_of_eq {s s' : ClusterState}
    (hrec : s'.stackRecords = s.stackRecords) (hrou : s'.gatewayRoutes = s.gatewayRoutes) :
    portsClear listens s' = portsClear listens s := by
  unfold portsClear reservedSpecs
  rw [hrec, hrou]

theorem start_listensApart {srv : Server} (h : start plat cfg env disk = .ok srv)
    (hdisk : portsClear disk.cluster.gateway.listen disk.state = true) : ListensApart srv := by
  have hkee : portsClear disk.cluster.gateway.listen srv.inner.state = true ∧
      portsClear disk.cluster.gateway.listen srv.disk.state = true :=
    start_keeps (P := fun s => portsClear disk.cluster.gateway.listen s = true)
      (fun _ hs => (portsClear_of_eq rfl rfl).trans hs)
      (fun _ _ _ _ hs => (portsClear_of_eq rfl rfl).trans hs) h hdisk
  rw [← start_listen h] at hkee
  exact ⟨hkee.1, hkee.2⟩

/-- **An event keeps ports and listeners apart**, if it is not a change of the settings that
takes a port of a stack. -/
theorem step_listensApart (plat : Platform) {event : Event}
    (hwor : Reachable plat world) (hfre : FreshIds env world)
    (hres : ∀ config, event ≠ .restart config) (hcle : settingsClear world event = true)
    (h : ListensApart world.server) : ListensApart (world.step plat env event).server := by
  have hsta : portsClear (world.step plat env event).server.inner.cluster.gateway.listen
      (world.step plat env event).server.inner.state = true := by
    refine portsClear_iff.mpr fun name spec hcla => ?_
    rcases step_claims plat hfre hres hcla with hold | ⟨req, hcau, -, hval⟩
    · rcases step_cluster plat hfre hres with hsame | ⟨cluster, rfl, hnew⟩
      · rw [hsame]
        exact portsClear_iff.mp h.state name spec hold
      · rw [hnew]
        exact portsClear_iff.mp hcle name spec hold
    · rcases step_cluster plat hfre hres with hsame | ⟨cluster, rfl, -⟩
      · rw [hsame]
        exact (validateApplyLocked_ok hval).2
      · cases hcau
  refine ⟨hsta, ?_⟩
  rcases (step_effect plat hfre hres).disk with hsame | hsto
  · -- nothing was written, so the settings in use are those of before
    have hclu := (hwor.step env event hfre).anchored.cluster
    rw [hsame, hwor.anchored.cluster] at hclu
    rw [hsame, ← hclu]
    exact h.stored
  · rw [hsto]
    exact hsta

/-- **The TCP ports of stacks and the listeners of the gateways never meet** in a run that
starts on a new database, or on a snapshot clear of the settings, and in which changed
settings are clear of the stacks. -/
theorem tcp_ports_clear {platform : Platform} {first world : World}
    (hfirst : Founded platform (fun config snapshot => portsClear config.cluster.gateway.listen
      (recoveredDisk config snapshot).state = true) first)
    (hrun : Runs platform (fun _ world event => settingsClear world event = true) first world)
    {name : String} {spec : StackGatewaySpec} (hclaims : Claims world.state name spec)
    {route : TcpRouteSpec} (hroute : route ∈ spec.tcpRoutes) {listen : String}
    (hlisten : listen ∈ world.server.inner.cluster.gateway.listen) :
    listenPort listen ≠ some route.listen := by
  suffices h : ListensApart world.server from
    portsClear_iff.mp h.state name spec hclaims route hroute listen hlisten
  clear hclaims hlisten
  induction hrun with
  | refl =>
    cases hfirst with
    | fresh hok => exact start_listensApart hok rfl
    | recovered _ hmee hok => exact start_listensApart hok hmee
  | @tail world _ hprefix hstep ih =>
    obtain ⟨env, event, hfre, hcle, rfl⟩ := hstep
    have hwor := Runs.reachable hprefix hfirst.reachable
    rcases event.ne_restart_or with hres | ⟨config, rfl⟩
    · exact step_listensApart platform hwor hfre hres hcle ih
    · show ListensApart (world.restart platform env config).server
      unfold World.restart
      split
      · exact ih
      next server hok =>
        refine start_listensApart hok ?_
        rw [hwor.anchored.cluster]
        exact ih.stored

/-- A database that is reached over TCP. -/
def tcpStack (listen : Nat) : ParsedStack :=
  { services := Table.ofList [("db", { image := "db", expose := [⟨7, none, "tcp"⟩] })]
    gateway := { tcpRoutes := [{ listen, backend := { service := "db", port := 7 } }] } }

/-- The settings of the sample cluster with other addresses. -/
def listenSettings (listen : List String) : ClusterSettings :=
  { sampleConfig.cluster with gateway := { sampleConfig.cluster.gateway with listen } }

/-- The stack is applied with port 8, and then the addresses change. -/
def tcpThenListen (listen : List String) : List Input :=
  [{ event := .apply "db" (tcpStack 8) Table.empty false, tag := "a" },
   { event := .commit 0, tag := "b" },
   { event := .updateClusterConfig (listenSettings listen), tag := "c" }]

theorem tcp_ports_clear_other :
    Claims (sampleWorld.perform samplePlatform (tcpThenListen [":9"])).state "db"
      (tcpStack 8).gateway ∧
    ":9" ∈ (sampleWorld.perform samplePlatform
      (tcpThenListen [":9"])).server.inner.cluster.gateway.listen ∧
    listenPort ":9" ≠ some 8 := by
  have hsta : start samplePlatform sampleConfig
      { now := ⟨0, 0⟩, later := ⟨0, 0⟩, uuid := taggedId "" } (initialDisk sampleConfig)
      = .ok sampleServer := rfl
  have hcla : Claims (sampleWorld.perform samplePlatform (tcpThenListen [":9"])).state "db"
      (tcpStack 8).gateway := .desired (by decide +kernel)
  have hlis : ":9" ∈ (sampleWorld.perform samplePlatform
      (tcpThenListen [":9"])).server.inner.cluster.gateway.listen := by decide +kernel
  refine ⟨hcla, hlis, ?_⟩
  exact tcp_ports_clear (.fresh hsta)
    (Runs.perform (fun _ => settingsClear) (fun h => h) (by decide +kernel)) hcla
    (List.mem_singleton.mpr rfl) hlis

/-- A change of the settings is accepted although a stack is served on the port. -/
theorem settings_take_tcp_port :
    Reachable samplePlatform (sampleWorld.perform samplePlatform (tcpThenListen [":8"])) ∧
    checkClusterConfig (fun _ => .ok ()) (listenSettings [":8"]) = .ok () ∧
    Claims (sampleWorld.perform samplePlatform (tcpThenListen [":8"])).state "db"
      (tcpStack 8).gateway ∧
    ":8" ∈ (sampleWorld.perform samplePlatform
      (tcpThenListen [":8"])).server.inner.cluster.gateway.listen ∧
    (∃ route ∈ (tcpStack 8).gateway.tcpRoutes, listenPort ":8" = some route.listen) :=
  ⟨sampleWorld_reachable.perform (by decide +kernel), by decide +kernel,
    .desired (by decide +kernel), by decide +kernel, by decide +kernel⟩

end Swarmlite
