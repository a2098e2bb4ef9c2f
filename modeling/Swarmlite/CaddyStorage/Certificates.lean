import Mathlib.Data.Finset.Basic
import Mathlib.Data.String.Basic
import Swarmlite.Lib.Table
import Swarmlite.Lib.Text
import Swarmlite.Lib.Threads

/-!
# Certificate files of a gateway — `caddy-storage/storage.go`, `snapshot.go`

A gateway keeps its certificates in local files and copies them to the controller's
key-value store, which all gateways share. When a gateway is replaced, the retiring
one pushes its files with a manifest that lists them, and refuses to change them from
then on (`quiesced`) until it is told to resume; the new one restores what the
manifest says.

Every call is a program over the operations below, each of them atomic: the
reader/writer lock `dataMu`, the flag, the local files and the remote store. Between
two operations of a call other calls run, other gateways write to the remote store,
and the file locks of certmagic come and go; the latter are not certificate files.

Mirroring notes:
- `defer s.dataMu.RUnlock()` is the end of `withRead`; every return goes through it.
- The local file storage is faithful: what is stored is read back, a listing is
  complete, deleting a file removes it and deleting a directory what is below it. An
  operation on files that fails changes nothing; one on the remote store may have
  had its effect.
- `quiesced.Store(true)` carries the manifest that was pushed and the result of a push
  the manifest beside the summary, for the statements; the source has the flag and the
  summary only.
- SHA-256 (as hex text), base64 and JSON are parameters.
-/

namespace Swarmlite

open Ordered Programs Threads

/-! ## Manifests -/

structure CertificateSnapshotObject where
  key : String
  size : Nat
  sha256 : String
deriving DecidableEq

structure CertificateSnapshotManifest where
  gatewayId : String
  objects : List CertificateSnapshotObject
deriving DecidableEq

structure CertificateSnapshotResult where
  gatewayId : String
  objects : Nat
  bytes : Nat
  sha256 : String
deriving DecidableEq

structure CertificatePlatform where
  sha256 : List UInt8 → String
  encodeBase64 : List UInt8 → String
  decodeBase64 : String → Option (List UInt8)
  marshal : CertificateSnapshotManifest → List UInt8
  unmarshal : List UInt8 → Option CertificateSnapshotManifest

def textBytes (text : String) : List UInt8 := text.toUTF8.toList

def namespacedKey (key : String) : String := if key.isEmpty then "caddy" else "caddy/" ++ key

def certificateManifestKey (platform : CertificatePlatform) (gatewayId : String) : String :=
  "swarmlite/gateway-certificates/" ++ platform.sha256 (textBytes (Text.trim gatewayId))
    ++ "/manifest"

/-- Everything is a certificate file except the lock files and two files that belong
to one instance. -/
def certificateSnapshotKey (key : String) : Bool :=
  let key := Text.trim key
  key ≠ "" && key ≠ "instance.uuid" && key ≠ "last_clean.json" && key ≠ "locks"
    && !Text.startsWith "locks/" key

def certificateSnapshotSummary (platform : CertificatePlatform)
    (manifest : CertificateSnapshotManifest) (totalBytes : Nat) : CertificateSnapshotResult :=
  { gatewayId := manifest.gatewayId
    objects := manifest.objects.length
    bytes := totalBytes
    sha256 := platform.sha256 (textBytes (String.join (manifest.objects.map fun object =>
      object.key ++ "\n" ++ toString object.size ++ "\n" ++ object.sha256 ++ "\n"))) }

/-! ## Operations -/

inductive FileError where
  | notExist
  | failed (message : String)
deriving DecidableEq

def FileError.message : FileError → String
  | .notExist => "file does not exist"
  | .failed message => message

/-- A call, and whether it is a restore. -/
structure StorageCaller where
  id : Nat
  restores : Bool
deriving DecidableEq

inductive StorageOp where
  | rLock
  | rUnlock
  | lock
  | unlock
  | isQuiesced
  | quiesce (manifest : CertificateSnapshotManifest)
  | resume
  | localList
  | localStat (key : String)
  | localLoad (key : String)
  | localStore (key : String) (value : List UInt8)
  | localDelete (key : String)
  | remotePut (key value : String)
  | remoteGet (key : String)
  | remoteDelete (key : String)

@[reducible] def StorageOp.Reply : StorageOp → Type
  | .isQuiesced => Bool
  | .localList => Except FileError (List String)
  | .localStat _ => Except FileError Bool
  | .localLoad _ => Except FileError (List UInt8)
  | .localStore _ _ => Except FileError Unit
  | .localDelete _ => Except FileError Unit
  | .remotePut _ _ => Except String Unit
  | .remoteGet _ => Except String String
  | .remoteDelete _ => Except String Unit
  | _ => Unit

structure CertificateStorage where
  readers : Finset StorageCaller := ∅
  writer : Option StorageCaller := none
  quiesced : Bool := false
  files : Map String (List UInt8)
  remote : Map String String

namespace CertificateStorage

def withFiles (storage : CertificateStorage) (files : Map String (List UInt8)) :
    CertificateStorage :=
  { storage with files }

def withRemote (storage : CertificateStorage) (remote : Map String String) : CertificateStorage :=
  { storage with remote }

end CertificateStorage

/-- `os.RemoveAll`: a file, or everything below a directory. -/
def deleteFiles (files : Map String (List UInt8)) (key : String) : Map String (List UInt8) :=
  if files.contains key then files.erase key
  else files.filter fun entry => !Text.startsWith (key ++ "/") entry.1

/-- What an operation does and replies. -/
def StorageOp.exec (caller : StorageCaller) (storage : CertificateStorage) :
    (op : StorageOp) → op.Reply → CertificateStorage → Prop
  | .rLock, _, after =>
    storage.writer = none ∧ after = { storage with readers := insert caller storage.readers }
  | .rUnlock, _, after => after = { storage with readers := storage.readers.erase caller }
  | .lock, _, after =>
    storage.writer = none ∧ storage.readers = ∅ ∧ after = { storage with writer := some caller }
  | .unlock, _, after => after = { storage with writer := none }
  | .isQuiesced, reply, after => reply = storage.quiesced ∧ after = storage
  | .quiesce _, _, after => after = { storage with quiesced := true }
  | .resume, _, after => after = { storage with quiesced := false }
  | .localList, reply, after =>
    after = storage ∧
      match reply with
      | .ok keys => keys.Nodup ∧ ∀ key ∈ storage.files.keys, key ∈ keys
      | .error .notExist => storage.files.rows = []
      | .error (.failed _) => True
  | .localStat key, reply, after =>
    after = storage ∧
      match reply with
      | .ok terminal => terminal = storage.files.contains key
      | .error .notExist => storage.files.contains key = false
      | .error (.failed _) => True
  | .localLoad key, reply, after =>
    after = storage ∧
      match reply with
      | .ok value => storage.files.lookup key = some value
      | .error .notExist => storage.files.lookup key = none
      | .error (.failed _) => True
  | .localStore key value, reply, after =>
    match reply with
    | .ok () => after = storage.withFiles (storage.files.put key value)
    | .error _ => after = storage
  | .localDelete key, reply, after =>
    match reply with
    | .ok () => after = storage.withFiles (deleteFiles storage.files key)
    | .error _ => after = storage
  | .remotePut key value, reply, after =>
    after = storage.withRemote (storage.remote.put key value) ∨
      (reply.isOk = false ∧ after = storage)
  | .remoteGet key, reply, after =>
    after = storage ∧
      match reply with
      | .ok value => storage.remote.lookup key = some value
      | .error _ => True
  | .remoteDelete _, _, after => ∃ remote, after = storage.withRemote remote

/-! ## The calls -/

abbrev StorageProg := Prog StorageOp StorageOp.Reply

namespace StorageProg

abbrev rLock : StorageProg Unit := Prog.perform StorageOp.rLock
abbrev rUnlock : StorageProg Unit := Prog.perform StorageOp.rUnlock
abbrev lock : StorageProg Unit := Prog.perform StorageOp.lock
abbrev unlock : StorageProg Unit := Prog.perform StorageOp.unlock
abbrev isQuiesced : StorageProg Bool := Prog.perform StorageOp.isQuiesced
abbrev quiesce (manifest : CertificateSnapshotManifest) : StorageProg Unit :=
  Prog.perform (StorageOp.quiesce manifest)
abbrev resume : StorageProg Unit := Prog.perform StorageOp.resume
abbrev localList : StorageProg (Except FileError (List String)) := Prog.perform StorageOp.localList
abbrev localStat (key : String) : StorageProg (Except FileError Bool) :=
  Prog.perform (StorageOp.localStat key)
abbrev localLoad (key : String) : StorageProg (Except FileError (List UInt8)) :=
  Prog.perform (StorageOp.localLoad key)
abbrev localStore (key : String) (value : List UInt8) : StorageProg (Except FileError Unit) :=
  Prog.perform (StorageOp.localStore key value)
abbrev localDelete (key : String) : StorageProg (Except FileError Unit) :=
  Prog.perform (StorageOp.localDelete key)
abbrev remotePut (key value : String) : StorageProg (Except String Unit) :=
  Prog.perform (StorageOp.remotePut key value)
abbrev remoteGet (key : String) : StorageProg (Except String String) :=
  Prog.perform (StorageOp.remoteGet key)
abbrev remoteDelete (key : String) : StorageProg (Except String Unit) :=
  Prog.perform (StorageOp.remoteDelete key)

end StorageProg

open StorageProg

def withRead {β : Type} (body : StorageProg β) : StorageProg β := do
  rLock
  let value ← body
  rUnlock
  return value

def withWrite {β : Type} (body : StorageProg β) : StorageProg β := do
  lock
  let value ← body
  unlock
  return value

section Calls

variable (platform : CertificatePlatform) (gatewayId : String)

def quiescedError : String :=
  "Swarmlite certificate storage is quiesced for Gateway replacement"

def storeFile (key : String) (value : List UInt8) : StorageProg (Except String Unit) :=
  withRead do
    if ← isQuiesced then return .error quiescedError
    else
      match ← localStore key value with
      | .error error => return .error error.message
      | .ok _ =>
        let _ ← remotePut (namespacedKey key) (platform.encodeBase64 value)
        return .ok ()

/-- A file that is missing here is fetched from the remote store, and kept unless the
storage is quiesced. -/
def loadFile (key : String) : StorageProg (Except FileError (List UInt8)) :=
  withRead do
    match ← localLoad key with
    | .ok value => return .ok value
    | .error (.failed message) => return .error (.failed message)
    | .error .notExist =>
      match ← remoteGet (namespacedKey key) with
      | .error _ => return .error .notExist
      | .ok encoded =>
        match platform.decodeBase64 encoded with
        | none => return .error (.failed "decode Swarmlite cache value")
        | some value =>
          if ← isQuiesced then return .ok value
          else
            match ← localStore key value with
            | .error error => return .error error
            | .ok _ => return .ok value

def deleteFile (key : String) : StorageProg (Except String Unit) :=
  withRead do
    if ← isQuiesced then return .error quiescedError
    else
      match ← localDelete key with
      | .error error => return .error error.message
      | .ok _ =>
        let _ ← remoteDelete (namespacedKey key)
        return .ok ()

/-- The loop of a push over the local keys. -/
def pushObjects : List String → List CertificateSnapshotObject → Nat →
    StorageProg (Except String (List CertificateSnapshotObject × Nat))
  | [], objects, totalBytes => return .ok (objects, totalBytes)
  | key :: keys, objects, totalBytes =>
    if !certificateSnapshotKey key then pushObjects keys objects totalBytes
    else do
      match ← localStat key with
      | .error error =>
        return .error ("stat local certificate object " ++ Text.quoted key ++ ": " ++ error.message)
      | .ok false => pushObjects keys objects totalBytes
      | .ok true =>
        match ← localLoad key with
        | .error error =>
          return .error ("load local certificate object " ++ Text.quoted key ++ ": "
            ++ error.message)
        | .ok value =>
          match ← remotePut (namespacedKey key) (platform.encodeBase64 value) with
          | .error error =>
            return .error ("push certificate object " ++ Text.quoted key ++ ": " ++ error)
          | .ok _ =>
            match ← remoteGet (namespacedKey key) with
            | .error error =>
              return .error ("verify certificate object " ++ Text.quoted key ++ ": " ++ error)
            | .ok remote =>
              if remote ≠ platform.encodeBase64 value then
                return .error ("verify certificate object " ++ Text.quoted key
                  ++ ": content mismatch")
              else
                pushObjects keys
                  (objects ++ [{ key, size := value.length, sha256 := platform.sha256 value }])
                  (totalBytes + value.length)

/-- The end of a push: the manifest is written and read back, and the storage is
quiesced. -/
def pushManifest (manifest : CertificateSnapshotManifest) (totalBytes : Nat) :
    StorageProg (Except String (CertificateSnapshotManifest × CertificateSnapshotResult)) := do
  let manifestValue := platform.encodeBase64 (platform.marshal manifest)
  match ← remotePut (certificateManifestKey platform gatewayId) manifestValue with
  | .error error => return .error ("push certificate manifest: " ++ error)
  | .ok _ =>
    match ← remoteGet (certificateManifestKey platform gatewayId) with
    | .error error => return .error ("verify certificate manifest: " ++ error)
    | .ok verified =>
      if verified ≠ manifestValue then
        return .error "verify certificate manifest: content mismatch"
      else
        quiesce manifest
        return .ok (manifest, certificateSnapshotSummary platform manifest totalBytes)

/-- A push once the local keys are known. -/
def pushKeys (keys : List String) :
    StorageProg (Except String (CertificateSnapshotManifest × CertificateSnapshotResult)) := do
  match ← pushObjects platform (keys.mergeSort (· ≤ ·)) [] 0 with
  | .error error => return .error error
  | .ok (objects, totalBytes) => pushManifest platform gatewayId { gatewayId, objects } totalBytes

def pushLocked :
    StorageProg (Except String (CertificateSnapshotManifest × CertificateSnapshotResult)) := do
  match ← localList with
  | .error (.failed message) => return .error ("list local certificate data: " ++ message)
  | listed => pushKeys platform gatewayId (listed.toOption.getD [])

def pushCertificateSnapshot (configured : Bool) :
    StorageProg (Except String (CertificateSnapshotManifest × CertificateSnapshotResult)) :=
  if !configured then return .error "Swarmlite coordinator unavailable"
  else if (Text.trim gatewayId).isEmpty then return .error "Swarmlite Gateway ID is empty"
  else withWrite (pushLocked platform gatewayId)

/-- The loop of a restore that clears the certificate files. -/
def clearFiles : List String → StorageProg (Except String Unit)
  | [] => return .ok ()
  | key :: keys => do
    match ← localStat key with
    | .error error =>
      return .error ("stat staged certificate object " ++ Text.quoted key ++ ": " ++ error.message)
    | .ok terminal =>
      if terminal && certificateSnapshotKey key then
        match ← localDelete key with
        | .error error =>
          return .error ("clear staged certificate object " ++ Text.quoted key ++ ": "
            ++ error.message)
        | .ok _ => clearFiles keys
      else clearFiles keys

/-- The loop of a restore over the objects of the manifest. -/
def restoreObjects : List CertificateSnapshotObject → List String → Nat →
    StorageProg (Except String Nat)
  | [], _, totalBytes => return .ok totalBytes
  | object :: objects, seen, totalBytes =>
    if !certificateSnapshotKey object.key then
      return .error ("certificate manifest contains invalid key " ++ Text.quoted object.key)
    else if seen.contains object.key then
      return .error ("certificate manifest repeats key " ++ Text.quoted object.key)
    else do
      match ← remoteGet (namespacedKey object.key) with
      | .error error =>
        return .error ("load certificate object " ++ Text.quoted object.key ++ ": " ++ error)
      | .ok remote =>
        match platform.decodeBase64 remote with
        | none => return .error ("decode certificate object " ++ Text.quoted object.key)
        | some value =>
          if value.length ≠ object.size ∨ platform.sha256 value ≠ object.sha256 then
            return .error ("certificate object " ++ Text.quoted object.key
              ++ " failed integrity verification")
          else
            match ← localStore object.key value with
            | .error error =>
              return .error ("restore certificate object " ++ Text.quoted object.key ++ ": "
                ++ error.message)
            | .ok _ =>
              restoreObjects objects (object.key :: seen) (totalBytes + value.length)

/-- A restore once the local keys are known. -/
def restoreOver (manifest : CertificateSnapshotManifest) (keys : List String) :
    StorageProg (Except String (CertificateSnapshotManifest × CertificateSnapshotResult)) := do
  match ← clearFiles keys with
  | .error error => return .error error
  | .ok _ =>
    match ← restoreObjects platform manifest.objects [] 0 with
    | .error error => return .error error
    | .ok totalBytes =>
      return .ok (manifest, certificateSnapshotSummary platform manifest totalBytes)

def restoreLocked (manifest : CertificateSnapshotManifest) :
    StorageProg (Except String (CertificateSnapshotManifest × CertificateSnapshotResult)) := do
  match ← localList with
  | .error (.failed message) => return .error ("list staged certificate data: " ++ message)
  | listed => restoreOver platform manifest (listed.toOption.getD [])

def restoreCertificateSnapshot (configured : Bool) :
    StorageProg (Except String (CertificateSnapshotManifest × CertificateSnapshotResult)) :=
  if !configured then return .error "Swarmlite coordinator unavailable"
  else if (Text.trim gatewayId).isEmpty then return .error "Swarmlite Gateway ID is empty"
  else do
    match ← remoteGet (certificateManifestKey platform gatewayId) with
    | .error error => return .error ("load certificate manifest: " ++ error)
    | .ok encoded =>
      match platform.decodeBase64 encoded with
      | none => return .error "decode certificate manifest value"
      | some bytes =>
        match platform.unmarshal bytes with
        | none => return .error "decode certificate manifest"
        | some manifest =>
          if manifest.gatewayId ≠ gatewayId then
            return .error "certificate manifest belongs to a different Gateway"
          else withWrite (restoreLocked platform manifest)

/-- `handleCertificateResume`. -/
def resumeStorage : StorageProg Unit := do
  resume
  return ()

end Calls

/-! ## The storage of a gateway -/

inductive StorageResult where
  | stored (result : Except String Unit)
  | loaded (result : Except FileError (List UInt8))
  | deleted (result : Except String Unit)
  | pushed (result : Except String (CertificateSnapshotManifest × CertificateSnapshotResult))
  | restored (result : Except String (CertificateSnapshotManifest × CertificateSnapshotResult))
  | resumed

/-- The calls a gateway's storage serves. -/
inductive StorageCall (platform : CertificatePlatform) (gatewayId : String) (configured : Bool)
    (caller : StorageCaller) : StorageProg StorageResult → Prop
  | store (h : caller.restores = false) (key : String) (value : List UInt8) :
      StorageCall platform gatewayId configured caller
        (do return .stored (← storeFile platform key value))
  | load (h : caller.restores = false) (key : String) :
      StorageCall platform gatewayId configured caller (do return .loaded (← loadFile platform key))
  | delete (h : caller.restores = false) (key : String) :
      StorageCall platform gatewayId configured caller (do return .deleted (← deleteFile key))
  | push (h : caller.restores = false) :
      StorageCall platform gatewayId configured caller
        (do return .pushed (← pushCertificateSnapshot platform gatewayId configured))
  | restore (h : caller.restores = true) :
      StorageCall platform gatewayId configured caller
        (do return .restored (← restoreCertificateSnapshot platform gatewayId configured))
  | resume (h : caller.restores = false) :
      StorageCall platform gatewayId configured caller
        (do resumeStorage; return .resumed)

/-- Other gateways write to the remote store, and files that are not certificates
change. -/
def storageInterferes (storage after : CertificateStorage) : Prop :=
  ∃ files remote, after = { storage with files, remote } ∧
    ∀ key, certificateSnapshotKey key = true → files.lookup key = storage.files.lookup key

/-- The storage of one gateway. -/
def storageMachine (platform : CertificatePlatform) (gatewayId : String) (configured : Bool) :
    Machine StorageCaller CertificateStorage StorageOp StorageOp.Reply StorageResult where
  exec := StorageOp.exec
  starts := StorageCall platform gatewayId configured
  interferes := storageInterferes
  initial storage := storage.readers = ∅ ∧ storage.writer = none ∧ storage.quiesced = false

end Swarmlite
