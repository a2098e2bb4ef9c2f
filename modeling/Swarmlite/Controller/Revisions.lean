import Swarmlite.Controller.Finished

/-!
# Revisions of operation views

A client that follows a service operation asks for its view with the last revision it saw, and
waits for another one. Nothing counts the revision in one place: the heartbeat, the periodic
work, an apply, a retry and a failed start each write the view and add one themselves. The
periodic work does it once for all its changes, and only if the record differs at its end.

`Grown` says what the client relies on. It is proved of each kind of change
(`OperationTended.grown`, `OperationDecided.grown`), carried through the upkeep of an event
(`Upkeeps.grown`) and an event (`run_grown`), and then along a run.

**`revisions_grow`**: of two different views of an operation the later one has the larger
revision, in every run in which the gateway generation is not exhausted. Two conditions are
about the counters themselves: ids are not drawn again, and the revision is below the largest
`u64`, where the periodic work stops counting.

The condition on the gateway generation is needed. A heartbeat that cannot number the new
routes is given up after it has changed the operations, so its changes are served and never
written; the controller that starts next serves the older views
(`restart_returns_older_view`).
-/

namespace Swarmlite

open Ordered Relation Loop

/-! ## One change -/

/-- A later record of the same operation shows the same view or a larger revision, until the
counter is full. -/
def Grown (op op' : ServiceOperationRecord) : Prop :=
  op'.view.revision < 18446744073709551615 →
    op.view.revision < 18446744073709551615 ∧
      (op'.view = op.view ∨ op.view.revision < op'.view.revision)

section Changes

variable {op op' op'' : ServiceOperationRecord}

theorem Grown.same (h : op'.view = op.view) : Grown op op' := fun hroom => ⟨h ▸ hroom, .inl h⟩

theorem Grown.next (h : op'.view.revision = op.view.revision + 1) : Grown op op' := by
  intro hroom
  rw [h] at hroom ⊢
  exact ⟨Nat.lt_of_succ_lt hroom, .inr (Nat.lt_succ_self _)⟩

theorem Grown.trans (h : Grown op op') (h' : Grown op' op'') : Grown op op'' := by
  intro hroom
  obtain ⟨hroom', hlat⟩ := h' hroom
  obtain ⟨hroom'', hear⟩ := h hroom'
  refine ⟨hroom'', ?_⟩
  rcases hlat with hsame | hlar
  · rw [hsame]
    exact hear
  · rcases hear with hsame | hlar'
    · exact .inr (hsame ▸ hlar)
    · exact .inr (hlar'.trans hlar)

/-- The periodic work counts all its changes as one. -/
theorem ServiceOperationRecord.advance_grown (s : ClusterState) (live : Keys String) (now : Int)
    (op : ServiceOperationRecord) : Grown op (op.advance s live now) := by
  have hbase : (op.work s live now).view.revision = op.view.revision :=
    congrArg (fun base => base.view.revision) (work_base s live now op)
  unfold advance
  dsimp only
  split
  · -- below the largest value the counter has really moved
    intro hroom
    dsimp only at hroom ⊢
    rw [hbase] at hroom ⊢
    exact ⟨by omega, .inr (by omega)⟩
  next hsame =>
    rw [← not_not.mp hsame]
    exact Grown.same rfl

theorem OperationTended.grown {env : Env} {event : Event} {s : ClusterState}
    (h : OperationTended env event s op op') : Grown op op' := by
  rcases h with rfl | h
  · exact Grown.same rfl
  · cases h with
    | advanced live time => exact ServiceOperationRecord.advance_grown s live time op
    | restartResult report =>
      unfold recordRestart
      split
      · exact Grown.next rfl
      split
      · exact Grown.next rfl
      · exact Grown.same rfl
    | prepared report =>
      unfold recordPreparation
      split
      · exact Grown.same rfl
      · refine Grown.next ?_
        dsimp only
        repeat' split
        all_goals rfl

theorem OperationDecided.grown {env : Env} {world : World} {event : Event}
    (h : OperationDecided env world event op op') : Grown op op' := by
  cases h with
  | kept => exact Grown.same rfl
  | revived dep =>
    unfold reviveOperation
    split
    · exact Grown.next rfl
    · exact Grown.same rfl
  | superseded req _ _ hcon =>
    unfold supersedeOperation
    rw [if_pos hcon]
    exact Grown.next rfl
  | started | unstarted => exact Grown.next rfl

end Changes

/-! ## Events -/

/-- The event gives this id to no new operation. -/
def LeavesId (id : String) (env : Env) (event : Event) : Prop :=
  ∀ request, event = .submitOperation request → "op_" ++ env.uuid 0 ≠ id

section Events

variable {plat : Platform} {env : Env} {world : World} {event : Event}
  {op' : ServiceOperationRecord}

/-- An operation after the upkeep of an event was there before it, with an older view. -/
theorem Upkeeps.grown {found : Inner} {s s' : ClusterState} (h : Upkeeps env event found s s')
    (hop' : op' ∈ s'.serviceOperations) :
    ∃ op ∈ s.serviceOperations, op.operationId = op'.operationId ∧ Grown op op' := by
  induction h generalizing op' with
  | refl => exact ⟨op', hop', rfl, Grown.same rfl⟩
  | tail _ hlast ih =>
    obtain ⟨mid, hmid, hten⟩ := hlast.operation_before hop'
    obtain ⟨op, hop, hid, hgro⟩ := ih hmid
    exact ⟨op, hop, hid.trans hten.kept.id.symm, hgro.trans hten.grown⟩

theorem step_grown (hfre : FreshIds env world) (hres : ∀ cfg, event ≠ .restart cfg)
    (hlea : LeavesId op'.operationId env event)
    (hop' : op' ∈ (world.step plat env event).state.serviceOperations) :
    ∃ op ∈ world.state.serviceOperations, op.operationId = op'.operationId ∧ Grown op op' := by
  rcases (step_changed plat hfre hres).changes with
    hupk | ⟨⟨s, hdeci, hupk⟩, -⟩
  · exact hupk.grown hop'
  · obtain ⟨mid, hmid, hid, hgro⟩ := hupk.grown hop'
    rcases hdeci.operation_before hmid with ⟨op, hop, hdec⟩ | ⟨req, heve, hacc⟩
    · exact ⟨op, hop, hdec.id.symm.trans hid, hdec.grown.trans hgro⟩
    · obtain ⟨svc, tasks, nodes, -, -, -, -, -, rfl⟩ := acceptOperation_new hacc
      exact absurd hid (hlea req heve)

/-- A restart serves what was written, which is what was served. -/
theorem run_grown {first : World} (hfir : Started plat first)
    (hrun : UnexhaustedRun plat first world) (hfre : FreshIds env world)
    (hlea : LeavesId op'.operationId env event)
    (hop' : op' ∈ (world.step plat env event).state.serviceOperations) :
    ∃ op ∈ world.state.serviceOperations, op.operationId = op'.operationId ∧ Grown op op' := by
  rcases event.ne_restart_or with hres | ⟨cfg, rfl⟩
  · exact step_grown hfre hres hlea hop'
  · rw [(restart_records (hrun.stored hfir) cfg).2] at hop'
    exact ⟨op', hop', rfl, Grown.same rfl⟩

end Events

/-! ## Runs -/

/-- Runs in which an operation's id stays its own. -/
abbrev ViewRun (platform : Platform) (id : String) : World → World → Prop :=
  Runs platform fun env world event => Unexhausted world event ∧ LeavesId id env event

/-- **The revision of an operation's view grows with every change.** -/
theorem revisions_grow {platform : Platform} {first world world' : World}
    {op op' : ServiceOperationRecord} (hfirst : Started platform first)
    (hbefore : UnexhaustedRun platform first world)
    (hrun : ViewRun platform op.operationId world world')
    (hop : op ∈ world.state.serviceOperations) (hop' : op' ∈ world'.state.serviceOperations)
    (hid : op'.operationId = op.operationId)
    (hroom : op'.view.revision < 18446744073709551615) (hchanged : op'.view ≠ op.view) :
    op.view.revision < op'.view.revision := by
  have hgro : Grown op op' := by
    clear hroom hchanged
    induction hrun generalizing op' with
    | refl =>
      obtain rfl := Table.eq_of_key hop' hop hid
      exact Grown.same rfl
    | tail hpre hstep ih =>
      obtain ⟨env, event, hfre, ⟨-, hlea⟩, rfl⟩ := hstep
      have hsof : UnexhaustedRun platform first _ :=
        hbefore.trans (Runs.mono (fun h => h.1) hpre)
      rw [← hid] at hlea
      obtain ⟨mid, hmid, hmidI, hsteG⟩ := run_grown hfirst hsof hfre hlea hop'
      exact (ih hmid (hmidI.trans hid)).trans hsteG
  rcases (hgro hroom).2 with hsame | hlar
  · exact absurd hsame hchanged
  · exact hlar

/-- The revision and the phase in the view of an operation. -/
def World.shown (world : World) (id : String) : Option (Nat × String) :=
  (world.state.serviceOperations.get? id).map fun op => (op.view.revision, op.view.phase)

theorem World.shown_some {world : World} {id phase : String} {revision : Nat}
    (h : world.shown id = some (revision, phase)) :
    ∃ op ∈ world.state.serviceOperations, op.operationId = id ∧ op.view.revision = revision ∧
      op.view.phase = phase := by
  obtain ⟨op, hop, hsho⟩ := Option.map_eq_some_iff.mp h
  obtain ⟨hmem, hid⟩ := Table.get?_eq_some.mp hop
  exact ⟨op, hmem, hid, congrArg Prod.fst hsho, congrArg Prod.snd hsho⟩

/-- The redeploy of the sample is submitted. -/
def submittedRedeploy : World := sampleWorld.perform samplePlatform (failedRedeploy.take 5)

/-- The heartbeat with the failed pull changes the view. -/
theorem revisions_grow_failedPull :
    ∃ op ∈ submittedRedeploy.state.serviceOperations,
    ∃ op' ∈ (submittedRedeploy.perform samplePlatform (failedRedeploy.drop 5)).state.serviceOperations,
      op.view.phase = "pulling" ∧ op'.view.phase = "failed" ∧
      op.view.revision < op'.view.revision := by
  have hbef : submittedRedeploy.shown "op_5" = some (1, "pulling") := by decide +kernel
  have haft : (submittedRedeploy.perform samplePlatform (failedRedeploy.drop 5)).shown "op_5"
      = some (2, "failed") := by decide +kernel
  obtain ⟨op, hop, hid, -, hpha⟩ := World.shown_some hbef
  obtain ⟨op', hop', hid', hrev', hpha'⟩ := World.shown_some haft
  have hfir : UnexhaustedRun samplePlatform sampleWorld submittedRedeploy :=
    Runs.perform World.gatewayGrows unexhausted_of_gatewayGrows (by decide +kernel)
  have hrun : ViewRun samplePlatform op.operationId submittedRedeploy
      (submittedRedeploy.perform samplePlatform (failedRedeploy.drop 5)) := by
    rw [hid]
    refine Runs.perform (fun env world event =>
      World.gatewayGrows env world event && "op_" ++ env.uuid 0 != "op_5") ?_ (by decide +kernel)
    intro env world event hche
    obtain ⟨hgro, hoth⟩ := Bool.and_eq_true_iff.mp hche
    exact ⟨unexhausted_of_gatewayGrows hgro, fun _ _ => bne_iff_ne.mp hoth⟩
  refine ⟨op, hop, op', hop', hpha, hpha', ?_⟩
  refine revisions_grow sampleWorld_started hfir hrun hop hop' (hid'.trans hid.symm) ?_ ?_
  · rw [hrev']
    decide
  · intro hsame
    rw [hsame, hpha] at hpha'
    exact absurd hpha' (by decide)

/-- The first address of the shop. -/
def shopUp : TaskReport :=
  { id := "6", observed := .healthy, containerId := some "box", imageId := some "image",
    ports := [⟨80, some 30000, "tcp"⟩] }

/-- A shop with a route is applied next to the deployed stack, and a redeploy submitted. One
heartbeat then brings the address of the shop and a failed pull. -/
def lateFailure : List Input :=
  deployedInputs ++
    [{ event := .apply "shop" routedStack Table.empty false, tag := "5" },
     { event := .commit 0, tag := "6" },
     { event := .submitOperation submitWeb, tag := "7" },
     { event := sampleBeat [webUp, shopUp] [] [{ webUnpulled with deploymentGeneration := 6 }],
       tag := "8" }]

/-- **A restart returns an older view.** The shop takes the last gateway generation, so the
heartbeat is given up after it has failed the redeploy. The failure is served with revision 2;
the next controller serves revision 1, in which the redeploy is still being prepared. -/
theorem restart_returns_older_view :
    Reachable samplePlatform (exhaustedWorld.perform samplePlatform lateFailure) ∧
    FreshIds (sampleEnv "9") (exhaustedWorld.perform samplePlatform lateFailure) ∧
    (exhaustedWorld.perform samplePlatform lateFailure).shown "op_7" = some (2, "failed") ∧
    ((exhaustedWorld.perform samplePlatform lateFailure).step samplePlatform (sampleEnv "9")
      (.restart sampleConfig)).shown "op_7" = some (1, "pulling") :=
  ⟨exhaustedWorld_reachable.perform (by decide +kernel), freshIds_of_tagFree (by decide +kernel),
    by decide +kernel, by decide +kernel⟩

end Swarmlite
