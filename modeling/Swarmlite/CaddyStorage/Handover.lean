import Swarmlite.CaddyStorage.Contract

/-!
# The hand-over of certificates is exact

The calls of the storage, one by one, keep its contract. The two loops that matter are
those of a push, which collects exactly the certificate files (`pushObjects_safe`), and
of a restore, which first leaves none (`clearFiles_safe`) and then puts exactly the
objects of the manifest in place (`restoreObjects_safe`). Neither can be disturbed:
both run under the lock for writing.

`certificate_handover_exact` reads the result off every reachable pool of calls.
-/

namespace Swarmlite

open Ordered Programs Threads StorageProg

variable {manifest : CertificateSnapshotManifest}

/-! ## The calls keep the contract -/

section Calls

variable {plat : CertificatePlatform} {gatewayId : String} {configured : Bool}
  {caller : StorageCaller} {view : StorageView} {β γ : Type}

/-- The caller's calls, under the contract of the storage. -/
abbrev SafeCall (platform : CertificatePlatform) (gatewayId : String) (configured : Bool)
    (caller : StorageCaller) (post : β → StorageView → Prop) :
    StorageProg β → StorageView → Prop :=
  Safe (storageContract platform gatewayId configured) caller post

variable {post : γ → StorageView → Prop} {op : StorageOp} {rest : op.Reply → StorageProg γ}
  {storage after : CertificateStorage} {key : String} {value : List UInt8}
  {files : Map String (List UInt8)} {certs certs' : String → Option (List UInt8)}
  {keys : List String} {objects : List CertificateSnapshotObject} {result : Except String Unit}

/-- The rule for a quiet operation: what was known stays known. -/
theorem Mode.perform {known : StorageView → Prop} (hmode : Mode caller known)
    (hop : op.quiet = true) (hkno : known view)
    (hrest : ∀ later reply after, known later → op.exec caller later.shared reply after →
      ∀ view', Valid plat view' → known view' → { caller, op, reply } ∈ view'.trace →
        SafeCall plat gatewayId configured caller post (rest reply) view') :
    SafeCall plat gatewayId configured caller post (Prog.perform op >>= rest) view := by
  refine Safe.perform hkno (fun later _ hrely h => hmode.stable hrely h) ?_
  intro later hval hlat reply after hexec
  have hsame := exec_quiet hop hexec
  obtain ⟨hval', hguar⟩ := keeps_quiet caller op reply hval hop hsame
  exact ⟨hval', hguar, hrest later reply after hlat hexec _ hval'
    (hmode.quiet hop hsame hlat) (List.mem_cons_self ..)⟩

/-- What was done once stays on record. -/
theorem SafeCall.record {prog : StorageProg β} {post : β → StorageView → Prop}
    {label : StorageLabel} (h : SafeCall plat gatewayId configured caller post prog view)
    (hlab : label ∈ view.trace) :
    SafeCall plat gatewayId configured caller
      (fun value after => post value after ∧ label ∈ after.trace) prog view :=
  Safe.keep h (fun hrely => Relies.labels hrely label) (List.mem_cons_of_mem _) hlab

theorem withRead_safe {body : StorageProg β} (hout : Outside caller view)
    (hbody : ∀ view', Valid plat view' → Reading caller view' →
      SafeCall plat gatewayId configured caller (fun _ after => Reading caller after) body view') :
    SafeCall plat gatewayId configured caller (fun _ _ => True) (withRead body) view := by
  refine Safe.perform hout (fun later _ hrely h => Outside.mode.stable hrely h) ?_
  intro later hlat _ reply after hexec
  obtain ⟨hwri, rfl⟩ := hexec
  obtain ⟨hval', hguar⟩ := keeps_rLock caller hlat hwri
  refine ⟨hval', hguar, ?_⟩
  refine Safe.bind (hbody _ hval' (Finset.mem_insert_self ..)) hval' ?_
  intro value view' hview' hrea
  refine Safe.perform hrea (fun later _ hrely h => Reading.mode.stable hrely h) ?_
  intro later' hlat' _ reply' after' hexec'
  cases hexec'
  obtain ⟨hval'', hguar''⟩ := keeps_rUnlock caller hlat'
  exact ⟨hval'', hguar'', Safe.done trivial⟩

/-- Files are written by callers that saw the flag down. -/
theorem Open.write (hopen : Open caller view)
    (hres : caller.restores = false) (hop : ∀ manifest, op ≠ .quiesce manifest)
    (hexec : ∀ storage reply after, op.exec caller storage reply after →
      ∃ files, after = storage.withFiles files)
    (hrest : ∀ reply view', Valid plat view' → Reading caller view' →
      SafeCall plat gatewayId configured caller post (rest reply) view') :
    SafeCall plat gatewayId configured caller post (Prog.perform op >>= rest) view := by
  refine Safe.perform hopen (fun later _ hrely h => Open.mode.stable hrely h) ?_
  intro later hval hlat reply after hstep
  obtain ⟨files, rfl⟩ := hexec _ _ _ hstep
  obtain ⟨hval', hguar⟩ := keeps_readWrite caller op reply hval hlat.1 hlat.2 hres hop files
  exact ⟨hval', hguar, hrest reply _ hval' hlat.1⟩

theorem exec_localStore {reply : Except FileError Unit}
    (h : (StorageOp.localStore key value).exec caller storage reply after) :
    ∃ files, after = storage.withFiles files := by
  cases reply with
  | error error => exact ⟨storage.files, h⟩
  | ok value => exact ⟨_, h⟩

/-- The test of the flag: the caller goes on knowing that it is down. -/
theorem Reading.unlessQuiesced {up down : StorageProg γ} (hrea : Reading caller view)
    (hup : ∀ view', Valid plat view' → Reading caller view' →
      SafeCall plat gatewayId configured caller post up view')
    (hdown : ∀ view', Valid plat view' → Open caller view' →
      SafeCall plat gatewayId configured caller post down view') :
    SafeCall plat gatewayId configured caller post (do if ← isQuiesced then up else down) view := by
  refine Safe.perform hrea (fun later _ hrely h => Reading.mode.stable hrely h) ?_
  intro later hval hlat reply after hexec
  obtain ⟨rfl, rfl⟩ := hexec
  obtain ⟨hval', hguar⟩ :=
    keeps_quiet caller .isQuiesced later.shared.quiesced hval rfl (SameLocal.refl _)
  refine ⟨hval', hguar, ?_⟩
  by_cases hflag : later.shared.quiesced = true
  · rw [if_pos hflag]
    exact hup _ hval' hlat
  · rw [if_neg hflag]
    exact hdown _ hval' ⟨hlat, Bool.eq_false_iff.mpr hflag⟩

theorem storeFile_safe (hout : Outside caller view) (hres : caller.restores = false)
    (key : String) (value : List UInt8) :
    SafeCall plat gatewayId configured caller (fun _ _ => True)
      (storeFile plat key value) view := by
  refine withRead_safe hout fun view' _ hrea => ?_
  refine hrea.unlessQuiesced (fun _ _ h => Safe.done h) fun view' _ hopen => ?_
  refine hopen.write hres nofun (fun _ _ _ => exec_localStore) ?_
  intro reply view' hval hrea
  cases reply with
  | error error => exact Safe.done hrea
  | ok stored =>
    exact Reading.mode.perform rfl hrea fun _ _ _ _ _ _ _ h _ => Safe.done h

theorem deleteFile_safe (hout : Outside caller view) (hres : caller.restores = false)
    (key : String) :
    SafeCall plat gatewayId configured caller (fun _ _ => True) (deleteFile key) view := by
  refine withRead_safe hout fun view' _ hrea => ?_
  refine hrea.unlessQuiesced (fun _ _ h => Safe.done h) fun view' _ hopen => ?_
  refine hopen.write hres nofun (fun storage reply _ h => ?_) ?_
  · cases reply with
    | error error => exact ⟨storage.files, h⟩
    | ok value => exact ⟨_, h⟩
  intro reply view' hval hrea
  cases reply with
  | error error => exact Safe.done hrea
  | ok deleted =>
    exact Reading.mode.perform rfl hrea fun _ _ _ _ _ _ _ h _ => Safe.done h

theorem loadFile_safe (hout : Outside caller view) (hres : caller.restores = false) (key : String) :
    SafeCall plat gatewayId configured caller (fun _ _ => True) (loadFile plat key)
      view := by
  refine withRead_safe hout fun view' _ hrea => ?_
  refine Reading.mode.perform rfl hrea fun _ found _ _ _ view' _ hrea _ => ?_
  rcases found with (_ | message) | value
  · refine Reading.mode.perform rfl hrea fun _ remote _ _ _ view' _ hrea _ => ?_
    cases remote with
    | error error => exact Safe.done hrea
    | ok encoded =>
      dsimp only
      cases plat.decodeBase64 encoded with
      | none => exact Safe.done hrea
      | some value =>
        refine hrea.unlessQuiesced (fun _ _ h => Safe.done h) fun view' _ hopen => ?_
        refine hopen.write hres nofun (fun _ _ _ => exec_localStore) ?_
        intro reply view' hval hrea
        cases reply with
        | error error | ok stored => exact Safe.done hrea
  · exact Safe.done hrea
  · exact Safe.done hrea

/-! ### The calls that hold the lock for writing -/

/-- What a body under the lock for writing knows at its end. -/
def Leaves (caller : StorageCaller)
    (known : (String → Option (List UInt8)) → List StorageLabel → Prop) (view : StorageView) :
    Prop :=
  ∃ certs, Writing caller certs view ∧ known certs view.trace

/-- A body under the lock for writing. What it established of the certificate files
still holds when the call returns, since it gives the lock back last. -/
theorem withWrite_safe {body : StorageProg β}
    (known : β → (String → Option (List UInt8)) → List StorageLabel → Prop)
    (hgro : ∀ {value certs trace trace'}, (∀ label ∈ trace, label ∈ trace') →
      known value certs trace → known value certs trace')
    (hout : Outside caller view)
    (hbody : ∀ view', Valid plat view' → Writing caller (certificates view'.shared.files) view' →
      (caller.restores = true → ∀ manifest, ¬ Standing view'.trace manifest) →
      SafeCall plat gatewayId configured caller
        (fun value after => Leaves caller (known value) after) body view') :
    SafeCall plat gatewayId configured caller
      (fun value after => known value (certificates after.shared.files) after.trace)
      (withWrite body) view := by
  refine Safe.perform hout (fun later _ hrely h => Outside.mode.stable hrely h) ?_
  intro later hlat _ reply after hexec
  obtain ⟨hwri, hrea, rfl⟩ := hexec
  obtain ⟨hval', hguar⟩ := keeps_lock caller hlat hwri hrea
  refine ⟨hval', hguar, ?_⟩
  refine Safe.bind (hbody _ hval' ⟨rfl, rfl⟩ fun hres manifest hsta => ?_) hval' ?_
  · rcases hsta with hqui | ⟨hends, -⟩
    · cases hqui
    · exact hends (.inr ⟨rfl, hres⟩)
  intro value view' _ hkno
  refine Safe.perform hkno (fun later _ hrely h => ?_) ?_
  · obtain ⟨certs, hwrit, hval⟩ := h
    exact ⟨certs, Writing.mode.stable hrely hwrit, hgro hrely.labels hval⟩
  intro later' hlat' hkno' reply' after' hexec'
  obtain ⟨certs, ⟨hwri', rfl⟩, hval⟩ := hkno'
  cases hexec'
  obtain ⟨hval'', hguar''⟩ := keeps_unlock caller hlat' hwri'
  exact ⟨hval'', hguar'', Safe.done (hgro (fun label hlab => List.mem_cons_of_mem _ hlab) hval)⟩

theorem certificates_none (h : certificateSnapshotKey key = false) :
    certificates files key = none := by
  unfold certificates
  rw [h]
  rfl

theorem certificates_lookup
    (h : certificateSnapshotKey key = true) : certificates files key = files.lookup key := by
  unfold certificates
  rw [if_pos h]

theorem contains_eq_isSome (files : Map String (List UInt8)) (key : String) :
    files.contains key = (files.lookup key).isSome := by
  unfold Table.contains Map.lookup
  rw [Option.isSome_map]

/-- The objects are those of the keys that are certificate files. -/
structure Listed (platform : CertificatePlatform) (certs : String → Option (List UInt8))
    (keys : List String) (objects : List CertificateSnapshotObject) : Prop where
  keys : objects.map CertificateSnapshotObject.key = keys.filter fun key => (certs key).isSome
  contents : ∀ object ∈ objects, ∃ value, certs object.key = some value ∧
    value.length = object.size ∧ platform.sha256 value = object.sha256

theorem Listed.skip (h : Listed plat certs keys objects)
    (hnone : certs key = none) : Listed plat certs (key :: keys) objects := by
  refine ⟨?_, h.contents⟩
  rw [List.filter_cons, hnone, if_neg (by simp)]
  exact h.keys

theorem Listed.cons (h : Listed plat certs keys objects) (hval : certs key = some value) :
    Listed plat certs (key :: keys)
      ({ key, size := value.length, sha256 := plat.sha256 value } :: objects) := by
  refine ⟨?_, fun object hobj => ?_⟩
  · rw [List.filter_cons, hval, if_pos Option.isSome_some, List.map_cons, h.keys]
  · rcases List.mem_cons.mp hobj with rfl | htail
    · exact ⟨value, hval, rfl, rfl⟩
    · exact h.contents object htail

/-- What a push has collected: the certificate files among the keys it went over. -/
def Collected (platform : CertificatePlatform) (certs : String → Option (List UInt8))
    (keys : List String) (objects : List CertificateSnapshotObject)
    (result : Except String (List CertificateSnapshotObject × Nat)) : Prop :=
  ∀ listed total, result = .ok (listed, total) →
    ∃ more, listed = objects ++ more ∧ Listed platform certs keys more

theorem pushObjects_safe (keys : List String)
    (objects : List CertificateSnapshotObject) (totalBytes : Nat)
    (hwri : Writing caller certs view) :
    SafeCall plat gatewayId configured caller (fun result after => Writing caller certs after ∧
        Collected plat certs keys objects result)
      (pushObjects plat keys objects totalBytes) view := by
  induction keys generalizing objects totalBytes view with
  | nil =>
    refine Safe.done ⟨hwri, fun listed total hok => ?_⟩
    cases hok
    exact ⟨[], (List.append_nil _).symm, rfl, nofun⟩
  | cons key keys ih =>
    have hskip : ∀ {view'}, Writing caller certs view' → certs key = none →
        SafeCall plat gatewayId configured caller (fun result after => Writing caller certs after ∧
            Collected plat certs (key :: keys) objects result)
          (pushObjects plat keys objects totalBytes) view' := by
      intro view' hwri' hnone
      refine (ih objects totalBytes hwri').weaken fun result after h => ⟨h.1, ?_⟩
      intro listed total hok
      obtain ⟨more, hmore, hlis⟩ := h.2 listed total hok
      exact ⟨more, hmore, hlis.skip hnone⟩
    unfold pushObjects
    split
    next hkey =>
      refine hskip hwri ?_
      rw [← hwri.2, certificates_none (by simpa using hkey)]
    next hkey =>
      have hkey : certificateSnapshotKey key = true := by simpa using hkey
      refine Writing.mode.perform rfl hwri fun later stat after hlat hexec view' _ hview _ => ?_
      obtain ⟨-, hstat⟩ := hexec
      rcases stat with error | terminal
      · exact Safe.done ⟨hview, nofun⟩
      · rw [contains_eq_isSome, ← certificates_lookup hkey, hlat.2] at hstat
        cases terminal with
        | false => exact hskip hview (Option.not_isSome_iff_eq_none.mp (by simp [← hstat]))
        | true =>
          refine Writing.mode.perform rfl hview
            fun later found after hlat hexec view' _ hview _ => ?_
          obtain ⟨-, hfou⟩ := hexec
          rcases found with error | value
          · exact Safe.done ⟨hview, nofun⟩
          · have hval : certs key = some value := by
              rw [← hlat.2, certificates_lookup hkey]
              exact hfou
            refine Writing.mode.perform rfl hview fun _ put _ _ _ view' _ hview _ => ?_
            rcases put with error | put
            · exact Safe.done ⟨hview, nofun⟩
            refine Writing.mode.perform rfl hview fun _ verified _ _ _ view' _ hview _ => ?_
            rcases verified with error | verified
            · exact Safe.done ⟨hview, nofun⟩
            dsimp only
            split
            · exact Safe.done ⟨hview, nofun⟩
            · refine (ih _ _ hview).weaken fun result after h => ⟨h.1, ?_⟩
              intro listed total hok
              obtain ⟨more, rfl, hlis⟩ := h.2 listed total hok
              exact ⟨_ :: more, List.append_assoc _ _ _, hlis.cons hval⟩

/-- The caller wrote the manifest to the remote store, and quiesced the storage. -/
def Pushed (platform : CertificatePlatform) (gatewayId : String) (caller : StorageCaller)
    (manifest : CertificateSnapshotManifest) (trace : List StorageLabel) : Prop :=
  { caller, op := .remotePut (certificateManifestKey platform gatewayId)
      (platform.encodeBase64 (platform.marshal manifest)), reply := .ok () } ∈ trace ∧
    { caller, op := .quiesce manifest, reply := () } ∈ trace

def PushRecorded (platform : CertificatePlatform) (gatewayId : String) (caller : StorageCaller)
    (result : Except String (CertificateSnapshotManifest × CertificateSnapshotResult))
    (trace : List StorageLabel) : Prop :=
  ∀ manifest summary, result = .ok (manifest, summary) →
    Pushed platform gatewayId caller manifest trace

/-- What the end of a push leaves, once the manifest is written. -/
def QuiesceRecorded (caller : StorageCaller) (certs : String → Option (List UInt8))
    (manifest : CertificateSnapshotManifest)
    (result : Except String (CertificateSnapshotManifest × CertificateSnapshotResult))
    (view : StorageView) : Prop :=
  Writing caller certs view ∧ ∀ pushed summary, result = .ok (pushed, summary) →
    pushed = manifest ∧ { caller, op := .quiesce manifest, reply := () } ∈ view.trace

theorem pushManifest_safe (hhol : Holds plat manifest certs)
    (totalBytes : Nat) (hwri : Writing caller certs view) :
    SafeCall plat gatewayId configured caller
      (fun result after => Leaves caller
        (fun _ trace => PushRecorded plat gatewayId caller result trace) after)
      (pushManifest plat gatewayId manifest totalBytes) view := by
  refine Writing.mode.perform rfl hwri fun _ put _ _ _ view' _ hview hput => ?_
  rcases put with error | put
  · exact Safe.done ⟨certs, hview, nofun⟩
  refine Safe.weaken (SafeCall.record (show SafeCall plat gatewayId configured caller
    (QuiesceRecorded caller certs manifest) _ _ from ?_) hput) fun result after h => ?_
  · refine Writing.mode.perform rfl hview fun _ verified _ _ _ view' _ hview _ => ?_
    rcases verified with error | verified
    · exact Safe.done ⟨hview, nofun⟩
    dsimp only
    split
    · exact Safe.done ⟨hview, nofun⟩
    · refine Safe.perform hview (fun later _ hrely h => Writing.mode.stable hrely h) ?_
      intro later hval hlat reply after hexec
      cases hexec
      obtain ⟨hval', hguar⟩ := keeps_quiesce caller hval hlat.1 (hlat.2 ▸ hhol)
      refine ⟨hval', hguar, Safe.done ⟨hlat, fun pushed summary hok => ?_⟩⟩
      cases hok
      exact ⟨rfl, List.mem_cons_self ..⟩
  · obtain ⟨⟨haft, hres⟩, hrec⟩ := h
    refine ⟨certs, haft, fun pushed summary hok => ?_⟩
    obtain ⟨rfl, hlab⟩ := hres pushed summary hok
    exact ⟨hrec, hlab⟩

/-- A complete listing makes the manifest of a push exact. -/
theorem Listed.holds (h : Listed plat certs keys objects)
    (hcom : ∀ key, (certs key).isSome = true → key ∈ keys) :
    Holds plat { gatewayId, objects } certs where
  keys key := by
    rw [h.keys, List.mem_filter]
    exact ⟨fun hsome => ⟨hcom key hsome, hsome⟩, And.right⟩
  contents := h.contents

/-- The keys a call goes over after listing the local files. -/
theorem listing_complete {reply : Except FileError (List String)}
    (h : StorageOp.localList.exec caller storage reply after)
    (hrep : ∀ message, reply ≠ .error (.failed message))
    (hkey : (certificates storage.files key).isSome = true) :
    key ∈ reply.toOption.getD [] := by
  obtain ⟨value, hval⟩ := Option.isSome_iff_exists.mp hkey
  have hmem : (key, value) ∈ storage.files := by
    unfold certificates at hval
    split at hval
    · exact Map.lookup_eq_some.mp hval
    · cases hval
  obtain ⟨-, hlis⟩ := h
  rcases reply with (_ | message) | keys
  · rw [← Table.mem_rows, show storage.files.rows = [] from hlis] at hmem
    cases hmem
  · exact absurd rfl (hrep message)
  · exact hlis.2 key (List.mem_map.mpr ⟨_, hmem, rfl⟩)

theorem pushKeys_safe
    (hcom : ∀ key, (certs key).isSome = true → key ∈ keys) (hval : Valid plat view)
    (hwri : Writing caller certs view) :
    SafeCall plat gatewayId configured caller (fun result after =>
        Leaves caller (fun _ trace => PushRecorded plat gatewayId caller result trace) after)
      (pushKeys plat gatewayId keys) view := by
  refine Safe.bind (pushObjects_safe _ _ _ hwri) hval fun result after _ hres => ?_
  obtain ⟨haft, hcol⟩ := hres
  rcases result with error | ⟨objects, totalBytes⟩
  · exact Safe.done ⟨certs, haft, nofun⟩
  · obtain ⟨more, rfl, hmore⟩ := hcol objects totalBytes rfl
    exact pushManifest_safe
      (hmore.holds fun key hkey => List.mem_mergeSort.mpr (hcom key hkey)) totalBytes haft

theorem pushLocked_safe (hwri : Writing caller (certificates view.shared.files) view) :
    SafeCall plat gatewayId configured caller (fun result after =>
        Leaves caller (fun _ trace => PushRecorded plat gatewayId caller result trace) after)
      (pushLocked plat gatewayId) view := by
  generalize certificates view.shared.files = certs at hwri
  refine Writing.mode.perform rfl hwri fun later listed after hlat hexec view' hval hview _ => ?_
  have hcom := fun hlis key (hkey : (certs key).isSome = true) =>
    listing_complete hexec hlis (hlat.2 ▸ hkey)
  rcases listed with (_ | message) | keys
  · exact pushKeys_safe (hcom nofun) hval hview
  · exact Safe.done ⟨certs, hview, nofun⟩
  · exact pushKeys_safe (hcom nofun) hval hview

theorem pushCertificateSnapshot_safe (hout : Outside caller view) :
    SafeCall plat gatewayId configured caller
      (fun result after => PushRecorded plat gatewayId caller result after.trace)
      (pushCertificateSnapshot plat gatewayId configured) view := by
  unfold pushCertificateSnapshot
  split
  · exact Safe.done nofun
  split
  · exact Safe.done nofun
  · refine withWrite_safe (fun result _ trace => PushRecorded plat gatewayId caller result trace)
      (fun hlab h manifest summary hok => ?_) hout fun view' _ hwri _ =>
        pushLocked_safe hwri
    exact ⟨hlab _ (h manifest summary hok).1, hlab _ (h manifest summary hok).2⟩

/-! ### Restoring -/

/-- A restore replaces the certificate files. -/
theorem Restoring.write (hres : Restoring caller certs view)
    (hop : ∀ manifest, op ≠ .quiesce manifest)
    (hexec : ∀ storage reply after, certificates storage.files = certs →
      op.exec caller storage reply after → ∃ files, after = storage.withFiles files ∧
        ∀ key, certificateSnapshotKey key = false → files.lookup key = storage.files.lookup key)
    (hrest : ∀ storage reply after view', certificates storage.files = certs →
      op.exec caller storage reply after → Valid plat view' →
      Restoring caller (certificates after.files) view' →
      SafeCall plat gatewayId configured caller post (rest reply) view') :
    SafeCall plat gatewayId configured caller post (Prog.perform op >>= rest) view := by
  refine Safe.perform hres (fun later _ hrely h => Restoring.mode.stable hrely h) ?_
  intro later hval hlat reply after hstep
  obtain ⟨files, rfl, hfra⟩ := hexec _ _ _ hlat.1.2 hstep
  obtain ⟨hval', hguar⟩ := keeps_restoreWrite caller op reply hval hlat.1.1 hlat.2 hop hfra
  refine ⟨hval', hguar, hrest _ reply _ _ hlat.1.2 hstep hval' ⟨⟨hlat.1.1, rfl⟩, ?_⟩⟩
  exact fun manifest hsta => hlat.2 manifest (hsta.of_cons hop)

theorem certificates_erase (files : Map String (List UInt8)) (key key' : String) :
    certificates (files.erase key) key' = if key' = key then none else certificates files key' := by
  unfold certificates
  rw [Map.lookup_erase]
  split
  · rfl
  · rw [ite_self]

theorem certificates_put (hkey : certificateSnapshotKey key = true) (key' : String) :
    certificates (files.put key value) key' =
      if key' = key then some value else certificates files key' := by
  unfold certificates
  rw [Map.lookup_put]
  by_cases heq : key' = key
  · subst heq
    simp only [hkey, if_true]
  · simp only [heq, if_false]

theorem ne_of_certificate {key' : String} (h : certificateSnapshotKey key = true)
    (h' : certificateSnapshotKey key' = false) : key' ≠ key := by
  intro heq
  rw [heq, h] at h'
  cases h'

/-- Clearing removes the certificate files among the keys, and nothing else. -/
def Cleared (keys : List String) (certs certs' : String → Option (List UInt8))
    (result : Except String Unit) : Prop :=
  result = .ok () → ∀ key, certs' key = if key ∈ keys then none else certs key

theorem Cleared.skip (h : Cleared keys certs certs' result) (hnone : certs key = none) :
    Cleared (key :: keys) certs certs' result := by
  intro hok key'
  rw [h hok key']
  by_cases heq : key' = key
  · subst heq
    simp [hnone]
  · simp [heq]

theorem Cleared.cons {erased : String → Option (List UInt8)}
    (h : Cleared keys erased certs' result)
    (hera : ∀ key', erased key' = if key' = key then none else certs key') :
    Cleared (key :: keys) certs certs' result := by
  intro hok key'
  rw [h hok key', hera key']
  by_cases heq : key' = key
  · subst heq
    simp
  · simp [heq]

theorem clearFiles_safe (keys : List String) (hres : Restoring caller certs view) :
    SafeCall plat gatewayId configured caller
      (fun result after => ∃ certs', Restoring caller certs' after ∧
        Cleared keys certs certs' result) (clearFiles keys) view := by
  induction keys generalizing certs view with
  | nil => exact Safe.done ⟨certs, hres, fun _ key => rfl⟩
  | cons key keys ih =>
    refine Restoring.mode.perform rfl hres fun later stat after hlat hexec view' _ hview _ => ?_
    obtain ⟨-, hstat⟩ := hexec
    rcases stat with error | terminal
    · exact Safe.done ⟨certs, hview, nofun⟩
    have hstat : terminal = later.shared.files.contains key := hstat
    dsimp only
    split
    next hclea =>
      obtain ⟨hter, hkey⟩ := (Bool.and_eq_true _ _).mp hclea
      have hsome : (certs key).isSome = true := by
        rw [← hlat.1.2, certificates_lookup hkey, ← contains_eq_isSome, ← hstat, hter]
      -- the file is still there, so that deleting it does not delete a directory
      have hfile : ∀ {storage : CertificateStorage}, certificates storage.files = certs →
          deleteFiles storage.files key = storage.files.erase key := by
        intro storage hcer
        unfold deleteFiles
        rw [if_pos]
        rw [contains_eq_isSome, ← certificates_lookup hkey, hcer, hsome]
      refine hview.write nofun (fun storage reply after hcer hstep => ?_)
        fun storage reply after view' hcer hstep _ hview => ?_
      · cases reply with
        | error error => exact ⟨storage.files, hstep, fun _ _ => rfl⟩
        | ok value =>
          refine ⟨_, hstep, fun key' hkey' => ?_⟩
          rw [hfile hcer, Map.lookup_erase, if_neg (ne_of_certificate hkey hkey')]
      · cases reply with
        | error error => exact Safe.done ⟨_, hview, nofun⟩
        | ok value =>
          refine (ih hview).weaken fun result after' h => ?_
          obtain ⟨certs', haft, hcle⟩ := h
          refine ⟨certs', haft, hcle.cons fun key' => ?_⟩
          rw [show after = _ from hstep, CertificateStorage.withFiles, hfile hcer,
            certificates_erase, hcer]
    next hclea =>
      refine (ih hview).weaken fun result after h => ?_
      obtain ⟨certs', haft, hcle⟩ := h
      refine ⟨certs', haft, hcle.skip ?_⟩
      cases hkey : certificateSnapshotKey key with
      | false => rw [← hlat.1.2, certificates_none hkey]
      | true =>
        rw [← hlat.1.2, certificates_lookup hkey]
        refine Option.not_isSome_iff_eq_none.mp fun hsome => hclea ?_
        rw [hstat, contains_eq_isSome, hsome, hkey]
        rfl

/-- The objects are in place beside the files restored before them. -/
structure InPlace (platform : CertificatePlatform) (objects : List CertificateSnapshotObject)
    (seen : List String) (certs certs' : String → Option (List UInt8)) : Prop where
  keys : ∀ key, (certs' key).isSome = true ↔
    key ∈ seen ∨ key ∈ objects.map CertificateSnapshotObject.key
  contents : ∀ object ∈ objects, ∃ value, certs' object.key = some value ∧
    value.length = object.size ∧ platform.sha256 value = object.sha256
  kept : ∀ key ∈ seen, certs' key = certs key

theorem InPlace.cons {object : CertificateSnapshotObject} {seen : List String}
    {stored : String → Option (List UInt8)}
    (h : InPlace plat objects (object.key :: seen) stored certs')
    (hsto : ∀ key, stored key = if key = object.key then some value else certs key)
    (hfre : object.key ∉ seen) (hsize : value.length = object.size)
    (hsha : plat.sha256 value = object.sha256) :
    InPlace plat (object :: objects) seen certs certs' where
  keys key := by
    rw [h.keys, List.mem_cons, List.map_cons, List.mem_cons]
    tauto
  contents other hother := by
    rcases List.mem_cons.mp hother with rfl | htail
    · refine ⟨value, ?_, hsize, hsha⟩
      rw [h.kept _ (List.mem_cons_self ..), hsto, if_pos rfl]
    · exact h.contents other htail
  kept key hkey := by
    rw [h.kept key (List.mem_cons_of_mem _ hkey), hsto, if_neg]
    exact fun heq => hfre (heq ▸ hkey)

theorem restoreObjects_safe
    (objects : List CertificateSnapshotObject) (seen : List String) (totalBytes : Nat)
    (hseen : ∀ key, (certs key).isSome = true ↔ key ∈ seen)
    (hres : Restoring caller certs view) :
    SafeCall plat gatewayId configured caller
      (fun result after => ∃ certs', Restoring caller certs' after ∧
        ∀ total, result = .ok total → InPlace plat objects seen certs certs')
      (restoreObjects plat objects seen totalBytes) view := by
  induction objects generalizing certs seen totalBytes view with
  | nil =>
    refine Safe.done ⟨certs, hres, fun total _ => ⟨fun key => ?_, nofun, fun _ _ => rfl⟩⟩
    rw [hseen key, List.map_nil]
    exact ⟨.inl, fun h => h.resolve_right List.not_mem_nil⟩
  | cons object objects ih =>
    unfold restoreObjects
    split
    · exact Safe.done ⟨certs, hres, nofun⟩
    next hkey =>
      have hkey : certificateSnapshotKey object.key = true := by simpa using hkey
      split
      · exact Safe.done ⟨certs, hres, nofun⟩
      next hrep =>
        have hfre : object.key ∉ seen := by simpa using hrep
        refine Restoring.mode.perform rfl hres fun _ remote _ _ _ view' _ hview _ => ?_
        rcases remote with error | remote
        · exact Safe.done ⟨certs, hview, nofun⟩
        dsimp only
        split
        · exact Safe.done ⟨certs, hview, nofun⟩
        next value _ =>
          split
          · exact Safe.done ⟨certs, hview, nofun⟩
          next hint =>
            obtain ⟨hsize, hsha⟩ := not_or.mp hint
            refine hview.write nofun (fun storage reply after hcer hstep => ?_)
              fun storage reply after view' hcer hstep _ hview => ?_
            · cases reply with
              | error error => exact ⟨storage.files, hstep, fun _ _ => rfl⟩
              | ok stored =>
                refine ⟨_, hstep, fun key hkey' => ?_⟩
                rw [Map.lookup_put, if_neg (ne_of_certificate hkey hkey')]
            · cases reply with
              | error error => exact Safe.done ⟨_, hview, nofun⟩
              | ok stored =>
                have hsto : ∀ key, certificates after.files key =
                    if key = object.key then some value else certs key := by
                  intro key
                  rw [show after = _ from hstep, CertificateStorage.withFiles,
                    certificates_put hkey, hcer]
                refine (ih (object.key :: seen) _ (fun key => ?_) hview).weaken
                  fun result after' h => ?_
                · rw [hsto key, List.mem_cons, ← hseen key]
                  by_cases heq : key = object.key
                  · simp [heq]
                  · simp [heq]
                · obtain ⟨certs', haft, hinP⟩ := h
                  exact ⟨certs', haft, fun total hok =>
                    (hinP total hok).cons hsto hfre (not_not.mp hsize) (not_not.mp hsha)⟩

/-- The caller read the manifest from the remote store, under the gateway's own key. -/
def ReadManifest (platform : CertificatePlatform) (gatewayId : String) (caller : StorageCaller)
    (manifest : CertificateSnapshotManifest) (trace : List StorageLabel) : Prop :=
  ∃ encoded bytes,
    { caller, op := .remoteGet (certificateManifestKey platform gatewayId), reply := .ok encoded }
      ∈ trace ∧
    platform.decodeBase64 encoded = some bytes ∧ platform.unmarshal bytes = some manifest ∧
    manifest.gatewayId = gatewayId

/-- A restore that succeeds leaves the files of its manifest. -/
def RestoredHolds (platform : CertificatePlatform) (manifest : CertificateSnapshotManifest)
    (result : Except String (CertificateSnapshotManifest × CertificateSnapshotResult))
    (certs : String → Option (List UInt8)) : Prop :=
  ∀ restored summary, result = .ok (restored, summary) →
    restored = manifest ∧ Holds platform manifest certs

def RestoreRecorded (platform : CertificatePlatform) (gatewayId : String) (caller : StorageCaller)
    (result : Except String (CertificateSnapshotManifest × CertificateSnapshotResult))
    (view : StorageView) : Prop :=
  ∀ manifest summary, result = .ok (manifest, summary) →
    ReadManifest platform gatewayId caller manifest view.trace ∧
      Holds platform manifest (certificates view.shared.files)

theorem restoreOver_safe (manifest : CertificateSnapshotManifest)
    (hcom : ∀ key, (certs key).isSome = true → key ∈ keys) (hval : Valid plat view)
    (hres : Restoring caller certs view) :
    SafeCall plat gatewayId configured caller (fun result after =>
        Leaves caller (fun certs _ => RestoredHolds plat manifest result certs) after)
      (restoreOver plat manifest keys) view := by
  refine Safe.bind (clearFiles_safe _ hres) hval fun cleared after hval' h => ?_
  obtain ⟨certs', haft, hcle⟩ := h
  rcases cleared with error | _
  · exact Safe.done ⟨certs', haft.1, nofun⟩
  -- the listing was complete, so that nothing is left
  have hemp : ∀ key, (certs' key).isSome = true ↔ key ∈ ([] : List String) := by
    intro key
    rw [hcle rfl key]
    split
    · simp
    next hmis => exact ⟨fun hsome => absurd (hcom key hsome) hmis, nofun⟩
  refine Safe.bind (restoreObjects_safe _ _ _ hemp haft) hval' fun placed after' _ h => ?_
  obtain ⟨certs'', haft', hinP⟩ := h
  rcases placed with error | totalBytes
  · exact Safe.done ⟨certs'', haft'.1, nofun⟩
  · refine Safe.done ⟨certs'', haft'.1, fun restored summary hok => ?_⟩
    cases hok
    have hinP := hinP totalBytes rfl
    refine ⟨rfl, fun key => ?_, hinP.contents⟩
    rw [hinP.keys key]
    exact ⟨fun h => h.resolve_left List.not_mem_nil, .inr⟩

theorem restoreLocked_safe (manifest : CertificateSnapshotManifest)
    (hres : Restoring caller (certificates view.shared.files) view) :
    SafeCall plat gatewayId configured caller (fun result after =>
        Leaves caller (fun certs _ => RestoredHolds plat manifest result certs) after)
      (restoreLocked plat manifest) view := by
  generalize certificates view.shared.files = certs at hres
  refine Restoring.mode.perform rfl hres fun later listed after hlat hexec view' hval hview _ => ?_
  have hcom := fun hlis key (hkey : (certs key).isSome = true) =>
    listing_complete hexec hlis (hlat.1.2 ▸ hkey)
  rcases listed with (_ | message) | keys
  · exact restoreOver_safe manifest (hcom nofun) hval hview
  · exact Safe.done ⟨certs, hview.1, nofun⟩
  · exact restoreOver_safe manifest (hcom nofun) hval hview

theorem restoreCertificateSnapshot_safe (hout : Outside caller view)
    (hres : caller.restores = true) :
    SafeCall plat gatewayId configured caller (RestoreRecorded plat gatewayId caller)
      (restoreCertificateSnapshot plat gatewayId configured) view := by
  unfold restoreCertificateSnapshot
  split
  · exact Safe.done nofun
  split
  · exact Safe.done nofun
  · refine Outside.mode.perform rfl hout fun _ remote _ _ _ view' _ hout hread => ?_
    rcases remote with error | encoded
    · exact Safe.done nofun
    dsimp only
    split
    · exact Safe.done nofun
    next bytes hbyt =>
      split
      · exact Safe.done nofun
      next manifest hman =>
        split
        · exact Safe.done nofun
        next hgat =>
          have hloc : SafeCall plat gatewayId configured caller (fun result after =>
                RestoredHolds plat manifest result (certificates after.shared.files))
              (withWrite (restoreLocked plat manifest)) view' :=
            withWrite_safe (fun result certs _ => RestoredHolds plat manifest result certs)
              (fun _ h => h) hout fun view' _ hwri hnone =>
                restoreLocked_safe manifest ⟨hwri, hnone hres⟩
          refine (SafeCall.record hloc hread).weaken fun result after h => ?_
          intro restored summary hok
          obtain ⟨rfl, hhol⟩ := h.1 restored summary hok
          exact ⟨⟨encoded, bytes, h.2, hbyt, hman, not_not.mp hgat⟩, hhol⟩

/-- What the storage's answers mean when they are given. -/
def Returned (platform : CertificatePlatform) (gatewayId : String) (caller : StorageCaller)
    (result : StorageResult) (view : StorageView) : Prop :=
  match result with
  | .pushed result => PushRecorded platform gatewayId caller result view.trace
  | .restored result => RestoreRecorded platform gatewayId caller result view
  | _ => True

theorem Outside.of_unseen (hval : Valid plat view) (huns : Unseen caller view.trace) :
    Outside caller view :=
  ⟨fun hmem => hval.readers caller hmem huns, fun hwri => hval.writer caller hwri huns⟩

theorem starts_safe {prog : StorageProg StorageResult} (hval : Valid plat view)
    (hsta : StorageCall plat gatewayId configured caller prog)
    (huns : Unseen caller view.trace) :
    SafeCall plat gatewayId configured caller (Returned plat gatewayId caller) prog view := by
  have hout := Outside.of_unseen hval huns
  cases hsta with
  | store h key value =>
    exact (storeFile_safe hout h key value).bind hval fun _ _ _ _ => Safe.done trivial
  | load h key => exact (loadFile_safe hout h key).bind hval fun _ _ _ _ => Safe.done trivial
  | delete h key =>
    exact (deleteFile_safe hout h key).bind hval fun _ _ _ _ => Safe.done trivial
  | push h =>
    exact (pushCertificateSnapshot_safe hout).bind hval fun _ _ _ hpost => Safe.done hpost
  | restore h =>
    exact (restoreCertificateSnapshot_safe hout h).bind hval fun _ _ _ hpost => Safe.done hpost
  | resume h =>
    refine Safe.perform hout (fun later _ hrely h => Outside.mode.stable hrely h) ?_
    intro later hlat _ reply after hexec
    cases hexec
    obtain ⟨hval', hguar⟩ := keeps_resume caller hlat
    exact ⟨hval', hguar, Safe.done trivial⟩

theorem storage_allSafe {pool : Pool StorageCaller CertificateStorage StorageOp StorageOp.Reply
      StorageResult} (hpool : Reach (storageMachine plat gatewayId configured) pool) :
    AllSafe (storageContract plat gatewayId configured) (Returned plat gatewayId) pool :=
  hpool.allSafe fun _ _ _ hsta hval huns => starts_safe hval hsta huns

end Calls

/-! ## The hand-over -/

theorem standing_of_append {label : StorageLabel}
    {older : List StorageLabel} (hlab : label.op = .quiesce manifest) :
    ∀ {recent : List StorageLabel}, (∀ later ∈ recent, ¬ ends later) →
      Standing (recent ++ label :: older) manifest
  | [], _ => .inl hlab
  | later :: _, hrecent =>
    .inr ⟨hrecent later (List.mem_cons_self ..),
      standing_of_append hlab fun other hoth => hrecent other (List.mem_cons_of_mem _ hoth)⟩

/-- A manifest determines the files: the digests are of the contents. -/
theorem Holds.unique {plat : CertificatePlatform} (hsha : Function.Injective plat.sha256)
    {certs certs' : String → Option (List UInt8)}
    (h : Holds plat manifest certs) (h' : Holds plat manifest certs') : certs = certs' := by
  funext key
  by_cases hkey : key ∈ manifest.objects.map CertificateSnapshotObject.key
  · obtain ⟨object, hobj, rfl⟩ := List.mem_map.mp hkey
    obtain ⟨value, hval, -, hdig⟩ := h.contents object hobj
    obtain ⟨value', hval', -, hdig'⟩ := h'.contents object hobj
    rw [hval, hval', hsha (hdig.trans hdig'.symm)]
  · rw [Option.not_isSome_iff_eq_none.mp (mt (h.keys key).mp hkey),
      Option.not_isSome_iff_eq_none.mp (mt (h'.keys key).mp hkey)]

/-- **The hand-over is exact.** In every interleaving: from the moment a push quiesces
the storage until it is resumed (or itself restored), the certificate files are those
of the pushed manifest; a push that reports success did write that manifest and
quiesce. When a restore reports success, the certificate files are those of the
manifest it read, and none of its operations changes another file. A manifest fixes
the files and their contents. -/
theorem certificate_handover_exact (platform : CertificatePlatform) (gatewayId : String)
    (configured : Bool) (hsha : Function.Injective platform.sha256)
    {pool : Pool StorageCaller CertificateStorage StorageOp StorageOp.Reply StorageResult}
    (hpool : Reach (storageMachine platform gatewayId configured) pool) :
    (∀ manifest recent label older, pool.view.trace = recent ++ label :: older →
      label.op = .quiesce manifest → (∀ later ∈ recent, ¬ ends later) →
      Holds platform manifest (certificates pool.view.shared.files)) ∧
    (∀ caller pool', Performs (storageMachine platform gatewayId configured) caller pool pool' →
      (∀ manifest summary, pool'.calls caller = some (.done (.pushed (.ok (manifest, summary)))) →
        Pushed platform gatewayId caller manifest pool'.view.trace) ∧
      (∀ manifest summary,
        pool'.calls caller = some (.done (.restored (.ok (manifest, summary)))) →
        ReadManifest platform gatewayId caller manifest pool'.view.trace ∧
          Holds platform manifest (certificates pool'.view.shared.files)) ∧
      (caller.restores = true → ∀ key, certificateSnapshotKey key = false →
        pool'.view.shared.files.lookup key = pool.view.shared.files.lookup key)) ∧
    (∀ manifest certs certs', Holds platform manifest certs → Holds platform manifest certs' →
      certs = certs') := by
  have hsafe := storage_allSafe hpool
  refine ⟨fun manifest recent label older htra hlab hrec => ?_,
    fun caller pool' hper => ?_, fun _ _ _ h h' => h.unique hsha h'⟩
  · refine (hsafe.valid.standing manifest ?_).2
    rw [htra]
    exact standing_of_append hlab hrec
  · obtain ⟨hguar, -, hret⟩ := hsafe.performs hper
    exact ⟨fun manifest summary hdone => hret _ hdone manifest summary rfl,
      fun manifest summary hdone => hret _ hdone manifest summary rfl, hguar.frame⟩

/-! A push that runs alone, on a gateway with one certificate. -/

def textDigest (bytes : List UInt8) : String := String.ofList (bytes.map Char.ofUInt8)

theorem textDigest_injective : Function.Injective textDigest := by
  intro a b h
  refine List.map_injective_iff.mpr (fun x y hxy => ?_) (String.ofList_injective h)
  have hval : x.toUInt32 = y.toUInt32 := congrArg Char.val hxy
  have hnat := congrArg UInt32.toNat hval
  rw [UInt8.toNat_toUInt32, UInt8.toNat_toUInt32] at hnat
  exact UInt8.toNat_inj.mp hnat

def plainPlatform : CertificatePlatform where
  sha256 := textDigest
  encodeBase64 := textDigest
  decodeBase64 _ := none
  marshal _ := []
  unmarshal _ := none

def oneCertificate : CertificateStorage where
  files := Map.put Table.empty "cert" [7]
  remote := Table.empty

def certManifest : CertificateSnapshotManifest :=
  { gatewayId := "g", objects := [{ key := "cert", size := 1, sha256 := textDigest [7] }] }

theorem push_runs : Runs (storageMachine plainPlatform "g" true) ⟨0, false⟩
    (fun view _ => ∃ label recent older, view.trace = recent ++ label :: older ∧
      label.op = .quiesce certManifest ∧ ∀ later ∈ recent, ¬ ends later)
    { shared := oneCertificate, trace := [] }
    (do return .pushed (← pushCertificateSnapshot plainPlatform "g" true)) := by
  unfold pushCertificateSnapshot
  rw [if_neg (by decide), if_neg (by decide)]
  refine Runs.perform () _ ⟨rfl, rfl, rfl⟩ ?_
  refine Runs.perform (.ok ["cert"]) _ ⟨rfl, by decide, by decide⟩ ?_
  have hsort : (["cert"] : List String).mergeSort (· ≤ ·) = ["cert"] := List.mergeSort_singleton _
  dsimp only [Except.toOption, Option.getD, Prog.bind, pushKeys]
  rw [hsort]
  refine Runs.perform (.ok true) _ ⟨rfl, by decide⟩ ?_
  refine Runs.perform (.ok [7]) _ ⟨rfl, by decide⟩ ?_
  refine Runs.perform (.ok ()) _ (.inl rfl) ?_
  refine Runs.perform (.ok (textDigest [7])) _ ⟨rfl, by decide⟩ ?_
  refine Runs.perform (.ok ()) _ (.inl rfl) ?_
  refine Runs.perform (.ok (textDigest [])) _ ⟨rfl, (Map.lookup_put ..).trans (if_pos rfl)⟩ ?_
  refine Runs.perform () _ rfl ?_
  refine Runs.perform () _ rfl (Runs.here ?_)
  refine ⟨_, [_], _, rfl, rfl, fun later hlat => ?_⟩
  cases List.mem_singleton.mp hlat
  exact fun hends => hends.elim nofun fun hlock => nomatch hlock.1

theorem certificate_handover_exact_pushed :
    ∃ pool, Reach (storageMachine plainPlatform "g" true) pool ∧
      Holds plainPlatform certManifest (certificates pool.view.shared.files) := by
  have hinit : (storageMachine plainPlatform "g" true).initial oneCertificate := ⟨rfl, rfl, rfl⟩
  have hsta := (Reach.init oneCertificate hinit).step
    (.start ⟨0, false⟩ _ (StorageCall.push rfl) nofun)
  obtain ⟨pool, _, hpool, -, label, recent, older, htra, hlab, hrec⟩ :=
    Reach.runs push_runs hsta (if_pos rfl)
  exact ⟨pool, hpool, (certificate_handover_exact plainPlatform "g" true textDigest_injective
    hpool).1 certManifest recent label older htra hlab hrec⟩
end Swarmlite
