import Swarmlite.CaddyStorage.Certificates

/-!
# What the callers of a storage promise each other

A push that succeeds has quiesced the storage; from then on, until the storage is
resumed or itself restored, its certificate files are the ones the manifest lists
(`Standing`, `Holds`). This rests on `dataMu`, and the contract of the storage says how:

* calls that store, load or delete hold the lock for reading, and change files only
  after they saw the flag down. The flag goes up under the lock for writing only, so
  it stays down until they are done (`Relies.steady`);
* a push and a restore hold it for writing: nobody else touches a certificate file
  meanwhile, and nobody else quiesces (`Relies.alone`).

So while the flag is up nobody but a restore changes a certificate file, which is the
invariant `Valid.standing`. Each operation is shown to keep the contract under the
part of the lock it needs, and a `Mode` is what a caller knows while it has that part.
-/

namespace Swarmlite

open Ordered Programs Threads StorageProg

variable {caller : StorageCaller} {op : StorageOp} {trace : List StorageLabel}
  {manifest : CertificateSnapshotManifest}

/-- The certificate files. -/
def certificates (files : Map String (List UInt8)) (key : String) : Option (List UInt8) :=
  if certificateSnapshotKey key then files.lookup key else none

/-- The certificate files are those of the manifest. -/
structure Holds (platform : CertificatePlatform) (manifest : CertificateSnapshotManifest)
    (certificates : String → Option (List UInt8)) : Prop where
  keys : ∀ key, (certificates key).isSome = true ↔
    key ∈ manifest.objects.map CertificateSnapshotObject.key
  contents : ∀ object ∈ manifest.objects, ∃ value, certificates object.key = some value ∧
    value.length = object.size ∧ platform.sha256 value = object.sha256

abbrev StorageLabel := Label StorageCaller StorageOp StorageOp.Reply
abbrev StorageView := View StorageCaller CertificateStorage StorageOp StorageOp.Reply

/-- The storage is resumed, or a restore begins to write. -/
def ends (label : StorageLabel) : Prop :=
  label.op = .resume ∨ (label.op = .lock ∧ label.caller.restores = true)

/-- A push with this manifest succeeded, and nothing has ended its hold since. -/
def Standing : List StorageLabel → CertificateSnapshotManifest → Prop
  | [], _ => False
  | label :: trace, manifest =>
    label.op = .quiesce manifest ∨ (¬ ends label ∧ Standing trace manifest)

/-! ## The contract -/

structure Valid (platform : CertificatePlatform) (view : StorageView) : Prop where
  excluded : ∀ caller, view.shared.writer = some caller → view.shared.readers = ∅
  readers : ∀ caller ∈ view.shared.readers, ¬ Unseen caller view.trace
  writer : ∀ caller, view.shared.writer = some caller → ¬ Unseen caller view.trace
  standing : ∀ manifest, Standing view.trace manifest → view.shared.quiesced = true ∧
    Holds platform manifest (certificates view.shared.files)

/-- What a caller may assume of the others. -/
structure Relies (caller : StorageCaller) (view view' : StorageView) : Prop where
  reading : caller ∈ view'.shared.readers ↔ caller ∈ view.shared.readers
  writing : view'.shared.writer = some caller ↔ view.shared.writer = some caller
  steady : caller ∈ view.shared.readers → view'.shared.quiesced = true →
    view.shared.quiesced = true
  alone : view.shared.writer = some caller →
    certificates view'.shared.files = certificates view.shared.files ∧
      ∀ manifest, Standing view'.trace manifest → Standing view.trace manifest
  labels : ∀ label ∈ view.trace, label ∈ view'.trace

/-- What a caller promises. -/
structure Guarantees (caller : StorageCaller) (view view' : StorageView) : Prop where
  others : ∀ other, other ≠ caller → Relies other view view'
  frame : caller.restores = true → ∀ key, certificateSnapshotKey key = false →
    view'.shared.files.lookup key = view.shared.files.lookup key

theorem Relies.refl {view : StorageView} : Relies caller view view :=
  ⟨Iff.rfl, Iff.rfl, fun _ h => h, fun _ => ⟨rfl, fun _ h => h⟩, fun _ h => h⟩

theorem Relies.trans {a b c : StorageView} (h : Relies caller a b)
    (h' : Relies caller b c) : Relies caller a c where
  reading := h'.reading.trans h.reading
  writing := h'.writing.trans h.writing
  steady hmem hquiesced := h.steady hmem (h'.steady (h.reading.mpr hmem) hquiesced)
  alone hwriter :=
    have hfir := h.alone hwriter
    have hsec := h'.alone (h.writing.mpr hwriter)
    ⟨hsec.1.trans hfir.1, fun manifest hsta =>
      hfir.2 manifest (hsec.2 manifest hsta)⟩
  labels label hlabel := h'.labels label (h.labels label hlabel)

section Contract

variable (platform : CertificatePlatform) (gatewayId : String) (configured : Bool)

theorem certificates_congr {files files' : Map String (List UInt8)}
    (h : ∀ key, certificateSnapshotKey key = true → files'.lookup key = files.lookup key) :
    certificates files' = certificates files := by
  funext key
  unfold certificates
  split
  next hkey => exact h key hkey
  · rfl

theorem Valid.interfered {view : StorageView} {shared : CertificateStorage}
    (h : Valid platform view) (hint : storageInterferes view.shared shared) :
    Valid platform { view with shared } ∧ ∀ caller, Relies caller view { view with shared } := by
  obtain ⟨files, remote, rfl, hfil⟩ := hint
  have hsame := certificates_congr hfil
  refine ⟨⟨h.excluded, h.readers, h.writer, fun manifest hsta => ?_⟩, fun caller => ?_⟩
  · obtain ⟨hqui, hhol⟩ := h.standing manifest hsta
    exact ⟨hqui, hsame ▸ hhol⟩
  · exact ⟨Iff.rfl, Iff.rfl, fun _ h => h, fun _ => ⟨hsame, fun _ h => h⟩, fun _ h => h⟩

def storageContract : Contract (storageMachine platform gatewayId configured) where
  valid := Valid platform
  rely := Relies
  guar := Guarantees
  initial := by
    intro shared hinitial
    obtain ⟨hreaders, hwriter, -⟩ := hinitial
    refine ⟨fun caller h => ?_, fun caller h => ?_, fun caller h => ?_, fun manifest h => h.elim⟩
    · exact hreaders
    · exact absurd (hreaders ▸ h) (Finset.notMem_empty caller)
    · exact absurd (hwriter.symm.trans h) nofun
  refl := Relies.refl
  trans := Relies.trans
  others hguar hne := hguar.others _ hne
  interferes hvalid hinterferes := hvalid.interfered platform hinterferes

end Contract

/-! ## What each operation keeps -/

/-- Operations that leave the lock, the flag and the local files as they are. -/
def StorageOp.quiet : StorageOp → Bool
  | .isQuiesced => true
  | .localList => true
  | .localStat _ => true
  | .localLoad _ => true
  | .remotePut _ _ => true
  | .remoteGet _ => true
  | .remoteDelete _ => true
  | _ => false

/-- The same lock, flag and local files. -/
structure SameLocal (storage after : CertificateStorage) : Prop where
  readers : after.readers = storage.readers
  writer : after.writer = storage.writer
  quiesced : after.quiesced = storage.quiesced
  files : after.files = storage.files

theorem SameLocal.refl (storage : CertificateStorage) : SameLocal storage storage :=
  ⟨rfl, rfl, rfl, rfl⟩

theorem exec_quiet {storage after : CertificateStorage}
    {reply : op.Reply} (hop : op.quiet = true) (h : op.exec caller storage reply after) :
    SameLocal storage after := by
  cases op with
  | isQuiesced =>
    obtain ⟨-, rfl⟩ := h
    exact SameLocal.refl _
  | localList | localStat key | localLoad key =>
    obtain ⟨rfl, -⟩ := h
    exact SameLocal.refl _
  | remotePut key value =>
    rcases h with rfl | ⟨-, rfl⟩
    · exact ⟨rfl, rfl, rfl, rfl⟩
    · exact SameLocal.refl _
  | remoteGet key =>
    obtain ⟨rfl, -⟩ := h
    exact SameLocal.refl _
  | remoteDelete key =>
    obtain ⟨remote, rfl⟩ := h
    exact ⟨rfl, rfl, rfl, rfl⟩
  | _ => cases hop

theorem ne_quiesce (hop : op.quiet = true)
    (manifest : CertificateSnapshotManifest) : op ≠ .quiesce manifest := by
  intro heq
  rw [heq] at hop
  cases hop

/-- Only a push that succeeds makes a manifest stand. -/
theorem Standing.of_cons {label : StorageLabel} (h : Standing (label :: trace) manifest)
    (hop : ∀ manifest, label.op ≠ .quiesce manifest) : Standing trace manifest := by
  rcases h with hqui | ⟨-, hsta⟩
  · exact absurd hqui (hop manifest)
  · exact hsta

theorem seen_cons {label : StorageLabel}
    (h : ¬ Unseen caller trace) : ¬ Unseen caller (label :: trace) :=
  fun huns => h fun label' hlab => huns label' (List.mem_cons_of_mem _ hlab)

theorem seen_self {reply : op.Reply} : ¬ Unseen caller ({ caller, op, reply } :: trace) :=
  fun huns => huns _ (List.mem_cons_self ..) rfl

section Operations

variable {platform : CertificatePlatform} (caller : StorageCaller) {view : StorageView}

/-- What an operation has to keep. -/
def Keeps (platform : CertificatePlatform) (caller : StorageCaller) (view view' : StorageView) :
    Prop :=
  Valid platform view' ∧ Guarantees caller view view'

theorem keeps_quiet (op : StorageOp) (reply : op.Reply) (h : Valid platform view)
    {after : CertificateStorage} (hop : op.quiet = true) (hsame : SameLocal view.shared after) :
    Keeps platform caller view (view.after caller op reply after) := by
  have hqui := ne_quiesce hop
  refine ⟨⟨fun other hoth => ?_, fun other hoth => ?_, fun other hoth => ?_,
    fun manifest hsta => ?_⟩, fun other _ => ⟨?_, ?_, fun _ hup => ?_, fun _ => ⟨?_, ?_⟩, ?_⟩,
    fun _ key _ => ?_⟩
  · exact hsame.readers.trans (h.excluded other (hsame.writer.symm.trans hoth))
  · exact seen_cons (h.readers other (hsame.readers ▸ hoth))
  · exact seen_cons (h.writer other (hsame.writer.symm.trans hoth))
  · obtain ⟨hup, hhol⟩ := h.standing manifest (hsta.of_cons hqui)
    exact ⟨hsame.quiesced.trans hup, by rw [View.after, hsame.files]; exact hhol⟩
  · rw [View.after, hsame.readers]
  · rw [View.after, hsame.writer]
  · exact hsame.quiesced.symm.trans hup
  · rw [View.after, hsame.files]
  · exact fun manifest hsta => hsta.of_cons hqui
  · exact fun label hlab => List.mem_cons_of_mem _ hlab
  · rw [View.after, hsame.files]

theorem keeps_rLock (h : Valid platform view) (hwri : view.shared.writer = none) :
    Keeps platform caller view (view.after caller StorageOp.rLock ()
      { view.shared with readers := insert caller view.shared.readers }) := by
  refine ⟨⟨fun other hoth => ?_, fun other hoth => ?_, fun other hoth => ?_,
    fun manifest hsta => ?_⟩, fun other hne => ⟨?_, Iff.rfl, fun _ hup => hup,
      fun _ => ⟨rfl, fun _ hsta => hsta.of_cons nofun⟩,
      fun _ hlab => List.mem_cons_of_mem _ hlab⟩, fun _ _ _ => rfl⟩
  · exact absurd (hwri.symm.trans hoth) nofun
  · rcases Finset.mem_insert.mp hoth with rfl | hmem
    · exact seen_self
    · exact seen_cons (h.readers other hmem)
  · exact absurd (hwri.symm.trans hoth) nofun
  · exact h.standing manifest (hsta.of_cons nofun)
  · exact ⟨fun hmem => Finset.mem_of_mem_insert_of_ne hmem hne, Finset.mem_insert_of_mem⟩

theorem keeps_rUnlock (h : Valid platform view) :
    Keeps platform caller view (view.after caller StorageOp.rUnlock ()
      { view.shared with readers := view.shared.readers.erase caller }) := by
  refine ⟨⟨fun other hoth => ?_, fun other hoth => ?_, fun other hoth => ?_,
    fun manifest hsta => ?_⟩, fun other hne => ⟨?_, Iff.rfl, fun _ hup => hup,
      fun _ => ⟨rfl, fun _ hsta => hsta.of_cons nofun⟩,
      fun _ hlab => List.mem_cons_of_mem _ hlab⟩, fun _ _ _ => rfl⟩
  · have hemp := h.excluded other hoth
    simp only [View.after, hemp, Finset.erase_empty]
  · exact seen_cons (h.readers other (Finset.mem_of_mem_erase hoth))
  · exact seen_cons (h.writer other hoth)
  · exact h.standing manifest (hsta.of_cons nofun)
  · exact ⟨Finset.mem_of_mem_erase, Finset.mem_erase_of_ne_of_mem hne⟩

theorem keeps_lock (h : Valid platform view) (hwri : view.shared.writer = none)
    (hrea : view.shared.readers = ∅) :
    Keeps platform caller view (view.after caller StorageOp.lock ()
      { view.shared with writer := some caller }) := by
  refine ⟨⟨fun other _ => hrea, fun other hoth => ?_, fun other hoth => ?_,
    fun manifest hsta => ?_⟩, fun other hne => ⟨Iff.rfl, ⟨fun heq => ?_, fun heq => ?_⟩,
      fun _ hup => hup, fun _ => ⟨rfl, fun _ hsta => hsta.of_cons nofun⟩,
      fun _ hlab => List.mem_cons_of_mem _ hlab⟩, fun _ _ _ => rfl⟩
  · exact seen_cons (h.readers other hoth)
  · cases hoth
    exact seen_self
  · exact h.standing manifest (hsta.of_cons nofun)
  · exact absurd (Option.some.inj heq).symm hne
  · exact absurd (hwri.symm.trans heq) nofun

theorem keeps_unlock (h : Valid platform view) (hwri : view.shared.writer = some caller) :
    Keeps platform caller view (view.after caller StorageOp.unlock ()
      { view.shared with writer := none }) := by
  refine ⟨⟨nofun, fun other hoth => ?_, nofun, fun manifest hsta => ?_⟩,
    fun other hne => ⟨Iff.rfl, ⟨nofun, fun heq => ?_⟩, fun _ hup => hup,
      fun _ => ⟨rfl, fun _ hsta => hsta.of_cons nofun⟩,
      fun _ hlab => List.mem_cons_of_mem _ hlab⟩, fun _ _ _ => rfl⟩
  · exact seen_cons (h.readers other hoth)
  · exact h.standing manifest (hsta.of_cons nofun)
  · exact absurd (Option.some.inj (hwri.symm.trans heq)).symm hne

/-- The flag goes up under the lock for writing, with the manifest of what is there. -/
theorem keeps_quiesce (h : Valid platform view) (hwri : view.shared.writer = some caller)
    (hhol : Holds platform manifest (certificates view.shared.files)) :
    Keeps platform caller view (view.after caller (StorageOp.quiesce manifest) ()
      { view.shared with quiesced := true }) := by
  refine ⟨⟨h.excluded, fun other hoth => seen_cons (h.readers other hoth),
    fun other hoth => seen_cons (h.writer other hoth), fun other hsta => ⟨rfl, ?_⟩⟩,
    fun other hne => ⟨Iff.rfl, Iff.rfl, fun hmem => ?_, fun heq => ?_,
      fun _ hlab => List.mem_cons_of_mem _ hlab⟩, fun _ _ _ => rfl⟩
  · rcases hsta with hqui | ⟨-, hbef⟩
    · cases hqui
      exact hhol
    · exact (h.standing other hbef).2
  · rw [h.excluded caller hwri] at hmem
    exact absurd hmem (Finset.notMem_empty other)
  · exact absurd (Option.some.inj (hwri.symm.trans heq)).symm hne

theorem keeps_resume (h : Valid platform view) :
    Keeps platform caller view (view.after caller StorageOp.resume ()
      { view.shared with quiesced := false }) := by
  have hnone : ∀ manifest, ¬ Standing ({ caller, op := StorageOp.resume, reply := () } ::
      view.trace) manifest := by
    intro manifest hsta
    rcases hsta with hqui | ⟨hends, -⟩
    · cases hqui
    · exact hends (.inl rfl)
  exact ⟨⟨h.excluded, fun other hoth => seen_cons (h.readers other hoth),
    fun other hoth => seen_cons (h.writer other hoth),
    fun manifest hsta => absurd hsta (hnone manifest)⟩,
    fun other _ => ⟨Iff.rfl, Iff.rfl, nofun,
      fun _ => ⟨rfl, fun manifest hsta => absurd hsta (hnone manifest)⟩,
      fun _ hlab => List.mem_cons_of_mem _ hlab⟩, fun _ _ _ => rfl⟩

/-- Files change under the lock for reading only while the flag is down. -/
theorem keeps_readWrite (op : StorageOp) (reply : op.Reply) (h : Valid platform view)
    (hmem : caller ∈ view.shared.readers) (hdown : view.shared.quiesced = false)
    (hres : caller.restores = false) (hop : ∀ manifest, op ≠ .quiesce manifest)
    (files : Map String (List UInt8)) :
    Keeps platform caller view (view.after caller op reply (view.shared.withFiles files)) := by
  have hwri : ∀ other, view.shared.writer ≠ some other := by
    intro other heq
    rw [h.excluded other heq] at hmem
    exact absurd hmem (Finset.notMem_empty caller)
  refine ⟨⟨h.excluded, fun other hoth => seen_cons (h.readers other hoth),
    fun other hoth => seen_cons (h.writer other hoth), fun manifest hsta => ?_⟩,
    fun other _ => ⟨Iff.rfl, Iff.rfl, fun _ hup => hup, fun heq => absurd heq (hwri other),
      fun _ hlab => List.mem_cons_of_mem _ hlab⟩,
    fun hrest => absurd (hres.symm.trans hrest) nofun⟩
  have hup := (h.standing manifest (hsta.of_cons hop)).1
  exact absurd (hdown.symm.trans hup) nofun

/-- A restore changes certificate files only, and only after it ended every hold. -/
theorem keeps_restoreWrite (op : StorageOp) (reply : op.Reply) (h : Valid platform view)
    (hwri : view.shared.writer = some caller)
    (hnone : ∀ manifest, ¬ Standing view.trace manifest)
    (hop : ∀ manifest, op ≠ .quiesce manifest) {files : Map String (List UInt8)}
    (hfra : ∀ key, certificateSnapshotKey key = false →
      files.lookup key = view.shared.files.lookup key) :
    Keeps platform caller view (view.after caller op reply (view.shared.withFiles files)) := by
  refine ⟨⟨h.excluded, fun other hoth => seen_cons (h.readers other hoth),
    fun other hoth => seen_cons (h.writer other hoth), fun manifest hsta => ?_⟩,
    fun other hne => ⟨Iff.rfl, Iff.rfl, fun _ hup => hup, fun heq => ?_,
      fun _ hlab => List.mem_cons_of_mem _ hlab⟩, fun _ key hkey => hfra key hkey⟩
  · exact absurd (hsta.of_cons hop) (hnone manifest)
  · exact absurd (Option.some.inj (hwri.symm.trans heq)).symm hne

end Operations

/-! ## What a caller knows while it holds the lock -/

/-- The caller has no part of the lock. -/
def Outside (caller : StorageCaller) (view : StorageView) : Prop :=
  caller ∉ view.shared.readers ∧ view.shared.writer ≠ some caller

def Reading (caller : StorageCaller) (view : StorageView) : Prop :=
  caller ∈ view.shared.readers

/-- It reads, and saw the flag down. -/
def Open (caller : StorageCaller) (view : StorageView) : Prop :=
  caller ∈ view.shared.readers ∧ view.shared.quiesced = false

/-- It writes, and these are the certificate files. -/
def Writing (caller : StorageCaller) (certs : String → Option (List UInt8)) (view : StorageView) :
    Prop :=
  view.shared.writer = some caller ∧ certificates view.shared.files = certs

/-- It writes, and no push stands any more. -/
def Restoring (caller : StorageCaller) (certs : String → Option (List UInt8))
    (view : StorageView) : Prop :=
  Writing caller certs view ∧ ∀ manifest, ¬ Standing view.trace manifest

/-- Knowledge that neither the others nor the caller's own quiet operations spoil. -/
structure Mode (caller : StorageCaller) (known : StorageView → Prop) : Prop where
  stable : ∀ {view later}, Relies caller view later → known view → known later
  quiet : ∀ {view after} {op : StorageOp} {reply : op.Reply}, op.quiet = true →
    SameLocal view.shared after → known view → known (view.after caller op reply after)

section Modes

variable {caller : StorageCaller} {certs : String → Option (List UInt8)}

theorem Outside.mode : Mode caller (Outside caller) where
  stable hrely h := ⟨mt hrely.reading.mp h.1, mt hrely.writing.mp h.2⟩
  quiet _ hsame h := by
    refine ⟨?_, ?_⟩
    · rw [View.after, hsame.readers]
      exact h.1
    · rw [View.after, hsame.writer]
      exact h.2

theorem Reading.mode : Mode caller (Reading caller) where
  stable hrely h := hrely.reading.mpr h
  quiet _ hsame h := by
    unfold Reading
    rw [View.after, hsame.readers]
    exact h

theorem Open.mode : Mode caller (Open caller) where
  stable hrely h := by
    refine ⟨hrely.reading.mpr h.1, Bool.eq_false_iff.mpr fun hup => ?_⟩
    exact absurd (h.2.symm.trans (hrely.steady h.1 hup)) nofun
  quiet _ hsame h := by
    refine ⟨?_, hsame.quiesced.trans h.2⟩
    rw [View.after, hsame.readers]
    exact h.1

theorem Writing.mode : Mode caller (Writing caller certs) where
  stable hrely h := ⟨hrely.writing.mpr h.1, (hrely.alone h.1).1.trans h.2⟩
  quiet _ hsame h := by
    refine ⟨hsame.writer.trans h.1, ?_⟩
    rw [View.after, hsame.files]
    exact h.2

theorem Restoring.mode : Mode caller (Restoring caller certs) where
  stable hrely h := ⟨Writing.mode.stable hrely h.1, fun manifest hsta =>
    h.2 manifest ((hrely.alone h.1.1).2 manifest hsta)⟩
  quiet hop hsame h := by
    refine ⟨Writing.mode.quiet hop hsame h.1, fun manifest hsta => ?_⟩
    exact h.2 manifest (hsta.of_cons (ne_quiesce hop))

end Modes

end Swarmlite
