/-
  `FirmwareUpdateService::run` (`src/firmware/firmware_update_service.cpp`).

  `run` validates the request, reads the image, takes a maintenance lease and
  hands the image to a backend: `begin`, one `send_chunk` per piece of the
  image, `finish`.  The backend, the lease provider, the file and the observer
  are parameters; the backend's answers may depend on all the calls before, and
  any of its calls may throw.  `run` gives its result and the list of what it
  did to the outside, in order (`FirmwareEvent`).

  `planned` is the list of calls of an update that succeeds.  The calls that
  `run` makes are a prefix of it; `Transferred` says how far an update has come
  and `Stopped` that a call failed.

  At the end, the percent that a `FirmwareTask` shows of the bytes that were
  transferred.
-/
import Axent.Broker
import Axent.Lib.Pieces
import Axent.MaintenanceLease
import Axent.Md5

namespace Axent

open Lib

/-! ## Requests and results -/

inductive FirmwareUpdateStage where
  | validating
  | acquiringMaintenance
  | beginning
  | transferring
  | finishing
  | completed
  deriving DecidableEq, Repr

inductive FirmwareUpdateCode where
  | success
  | busy
  | invalidArgument
  | fileReadFailed
  | beginFailed
  | transferFailed
  | finishFailed
  | rejected
  | internalError
  deriving DecidableEq, Repr

structure FirmwareUpdateRequest where
  deviceId : String := ""
  filePath : String := ""
  fileId : String := "firmware"
  target : String := ""
  packageId : String := ""
  version : String := ""
  preferredChunkSize : UInt32 := 1024
  timeout : ℤ := 5000
  sid : String := ""

structure FirmwareUpdateProgress where
  stage : FirmwareUpdateStage := .validating
  bytesTransferred : ℕ := 0
  totalBytes : ℕ := 0
  chunksTransferred : UInt32 := 0

structure FirmwareBackendStatus where
  ok : Bool := false
  protocolStatus : UInt16 := 0
  message : String := ""

structure FirmwareBeginRequest where
  fileId : String := ""
  target : String := ""
  packageId : String := ""
  version : String := ""
  md5 : String := ""
  size : ℕ := 0
  preferredChunkSize : UInt32 := 1024
  timeout : ℤ := 5000
  sid : String := ""

structure FirmwareBeginResult where
  status : FirmwareBackendStatus := {}
  updateSessionId : String := ""
  state : String := ""
  streamId : UInt32 := 0
  chunkSize : UInt32 := 0

structure FirmwareChunkRequest where
  updateSessionId : String := ""
  streamId : UInt32 := 0
  sequenceId : UInt32 := 0
  cursor : ℕ := 0
  data : List UInt8 := []

structure FirmwareFinishRequest where
  updateSessionId : String := ""
  timeout : ℤ := 5000
  sid : String := ""

structure FirmwareFinishResult where
  status : FirmwareBackendStatus := {}
  updateSessionId : String := ""
  accepted : Bool := false
  state : String := ""

structure FirmwareUpdateResult where
  code : FirmwareUpdateCode := .internalError
  message : String := ""
  protocolStatus : UInt16 := 0
  failedMethod : String := ""
  fileId : String := ""
  md5 : String := ""
  updateSessionId : String := ""
  streamId : UInt32 := 0
  chunkSize : UInt32 := 0
  chunks : UInt32 := 0
  bytes : ℕ := 0
  begin : FirmwareBeginResult := {}
  finish : FirmwareFinishResult := {}

/-! ## The outside of the service -/

inductive BackendCall where
  | begin (request : FirmwareBeginRequest)
  | sendChunk (request : FirmwareChunkRequest)
  | finish (request : FirmwareFinishRequest)

/-- `IFirmwareUpdateBackend`; the first argument is the list of earlier calls. -/
structure FirmwareBackend where
  begin : List BackendCall → FirmwareBeginRequest → Except Thrown FirmwareBeginResult
  sendChunk : List BackendCall → FirmwareChunkRequest → Except Thrown FirmwareBackendStatus
  finish : List BackendCall → FirmwareFinishRequest → Except Thrown FirmwareFinishResult

/-- What opening the firmware file gives; `readable` says whether the bytes can
    be read after their number is known. -/
inductive FirmwareFile where
  | unopened
  | sizeUnknown
  | opened (bytes : List UInt8) (readable : Bool)

def FirmwareFile.image : FirmwareFile → List UInt8
  | opened bytes _ => bytes
  | _ => []

/-- What `run` does to the outside.  `leased` marks that it holds the lease,
    `release` a call of the release function of a lease. -/
inductive FirmwareEvent (ρ : Type) where
  | progress (progress : FirmwareUpdateProgress)
  | leased (lease : MaintenanceLease ρ)
  | call (call : BackendCall)
  | release (release : ρ)

/-- The service with its lease provider, which gives a lease and the reason of
    a refusal, and the files it can open. -/
structure FirmwareUpdateService (ρ : Type) where
  backend : FirmwareBackend
  maintenance : String → Except Thrown (MaintenanceLease ρ × String)
  file : String → FirmwareFile

abbrev FirmwareProgressObserver := Option (FirmwareUpdateProgress → Except Thrown Unit)

section
variable {ρ : Type} {t : List (FirmwareEvent ρ)} {p : FirmwareUpdateProgress}

/-- The calls on the backend in a list of events. -/
def backendCalls (t : List (FirmwareEvent ρ)) : List BackendCall :=
  t.filterMap fun | .call c => some c | _ => none

/-- The `bytes_transferred` of the progress reports in a list of events. -/
def reportedBytes (t : List (FirmwareEvent ρ)) : List ℕ :=
  t.filterMap fun | .progress p => some p.bytesTransferred | _ => none

/-- An event that concerns the lease. -/
def FirmwareEvent.isLease : FirmwareEvent ρ → Bool
  | .leased _ | .release _ => true
  | _ => false

/-! ## The service -/

def unavailableStatus : UInt16 := 0x000F
def rpcPayloadInvalidStatus : UInt16 := 0x0033

/-- An observer that throws has seen the report; its exception is dropped. -/
def notify (observer : FirmwareProgressObserver) (progress : FirmwareUpdateProgress)
    (t : List (FirmwareEvent ρ)) : List (FirmwareEvent ρ) :=
  match observer with
  | none => t
  | some f =>
    match f progress with
    | .ok () => t ++ [.progress progress]
    | .error _ => t ++ [.progress progress]

def invalidResult (code : FirmwareUpdateCode) (message fileId : String) : FirmwareUpdateResult :=
  { code := code, message := message, fileId := fileId }

def statusMessage (status : FirmwareBackendStatus) (fallback : String) : String :=
  if status.message = "" then fallback else status.message

/-- The message of the two `catch` clauses of a backend call. -/
def Thrown.message (fallback : String) : Thrown → String
  | exception what => what
  | other => fallback

/-- The checks on the request. -/
def FirmwareUpdateRequest.validate (request : FirmwareUpdateRequest) :
    Except (FirmwareUpdateCode × String) Unit :=
  if request.filePath = "" then .error (.invalidArgument, "firmware file path is required")
  else if request.deviceId = "" then .error (.invalidArgument, "firmware device id is required")
  else if request.fileId = "" then .error (.invalidArgument, "firmware file id is required")
  else if request.preferredChunkSize = 0 then
    .error (.invalidArgument, "firmware chunk size must be greater than zero")
  else if request.timeout < 0 then
    .error (.invalidArgument, "firmware timeout must not be negative")
  else .ok ()

/-- Reading the image. -/
def FirmwareFile.read : FirmwareFile → Except (FirmwareUpdateCode × String) (List UInt8)
  | unopened => .error (.fileReadFailed, "failed to read firmware file")
  | sizeUnknown => .error (.fileReadFailed, "failed to determine firmware file size")
  | opened bytes readable =>
    if bytes.length = 0 then .error (.invalidArgument, "firmware file must not be empty")
    else if 2 ^ 64 - 1 < bytes.length then .error (.fileReadFailed, "firmware file is too large")
    else if 2 ^ 63 - 1 < bytes.length then
      .error (.fileReadFailed, "firmware file is too large to read")
    else if readable then .ok bytes
    else .error (.fileReadFailed, "failed to read firmware file")

/-- The result of a call that threw. -/
def FirmwareUpdateResult.threw (result : FirmwareUpdateResult) (code : FirmwareUpdateCode)
    (thrown : Thrown) (fallback method : String) : FirmwareUpdateResult :=
  { result with
    code := code
    protocolStatus := unavailableStatus
    message := thrown.message fallback
    failedMethod := method }

/-- The result of a call whose answer is a failure. -/
def FirmwareUpdateResult.failed (result : FirmwareUpdateResult) (code : FirmwareUpdateCode)
    (protocolStatus : UInt16) (message method : String) : FirmwareUpdateResult :=
  { result with
    code := code
    protocolStatus := protocolStatus
    message := message
    failedMethod := method }

def FirmwareUpdateRequest.beginRequest (request : FirmwareUpdateRequest)
    (result : FirmwareUpdateResult) : FirmwareBeginRequest where
  fileId := request.fileId
  target := request.target
  packageId := request.packageId
  version := request.version
  md5 := result.md5
  size := result.bytes
  preferredChunkSize := request.preferredChunkSize
  timeout := request.timeout
  sid := request.sid

/-- The chunk size that an update uses. -/
def FirmwareUpdateRequest.chunkSize (request : FirmwareUpdateRequest)
    (begin : FirmwareBeginResult) : UInt32 :=
  if begin.chunkSize = 0 then request.preferredChunkSize else begin.chunkSize

/-- A result whose chunk size is known; the transfer loop needs it to advance. -/
abbrev BegunUpdate := { result : FirmwareUpdateResult // 0 < result.chunkSize.toNat }

namespace FirmwareUpdateService
variable (svc : FirmwareUpdateService ρ) (observer : FirmwareProgressObserver)
  (request : FirmwareUpdateRequest) (image : List UInt8)

/-- The part of `run` up to the chunk size; an error is an early return. -/
def begin (result : FirmwareUpdateResult) (t : List (FirmwareEvent ρ)) :
    Except FirmwareUpdateResult BegunUpdate × List (FirmwareEvent ρ) :=
  let t := notify observer { stage := .beginning, totalBytes := result.bytes } t
  let answer := svc.backend.begin (backendCalls t) (request.beginRequest result)
  let t := t ++ [.call (.begin (request.beginRequest result))]
  match answer with
  | .error thrown =>
    (.error (result.threw .beginFailed thrown "firmware begin failed" "firmware.beginUpdate"), t)
  | .ok begin =>
    let result := { result with
      begin := begin
      protocolStatus := begin.status.protocolStatus }
    if !begin.status.ok then
      (.error (result.failed .beginFailed begin.status.protocolStatus
        (statusMessage begin.status "firmware begin failed") "firmware.beginUpdate"), t)
    else if begin.updateSessionId = "" then
      (.error (result.failed .beginFailed rpcPayloadInvalidStatus
        "firmware begin response has no update session" "firmware.beginUpdate"), t)
    else
      let result := { result with
        updateSessionId := begin.updateSessionId
        streamId := begin.streamId
        chunkSize := request.chunkSize begin }
      if h : 0 < result.chunkSize.toNat then (.ok ⟨result, h⟩, t)
      else
        (.error (result.failed .beginFailed rpcPayloadInvalidStatus
          "firmware begin response has invalid chunk size" "firmware.beginUpdate"), t)

/-- The transfer loop from `offset` on. -/
def sendChunks (result : BegunUpdate) (offset : ℕ) (t : List (FirmwareEvent ρ)) :
    Except FirmwareUpdateResult FirmwareUpdateResult × List (FirmwareEvent ρ) :=
  if offset < image.length then
    let count := min result.1.chunkSize.toNat (image.length - offset)
    let chunk : FirmwareChunkRequest :=
      { updateSessionId := result.1.updateSessionId
        streamId := result.1.streamId
        sequenceId := result.1.chunks
        cursor := offset
        data := (image.drop offset).take count }
    let answer := svc.backend.sendChunk (backendCalls t) chunk
    let t := t ++ [.call (.sendChunk chunk)]
    match answer with
    | .error thrown =>
      (.error (result.1.threw .transferFailed thrown "firmware stream failed" "firmware.stream"), t)
    | .ok status =>
      if !status.ok then
        (.error (result.1.failed .transferFailed status.protocolStatus
          (statusMessage status "firmware stream failed") "firmware.stream"), t)
      else
        let result : BegunUpdate := ⟨{ result.1 with chunks := result.1.chunks + 1 }, result.2⟩
        let t := notify observer
          { stage := .transferring
            bytesTransferred :=
              if result.1.bytes = 0 then 0 else min result.1.bytes (offset + count)
            totalBytes := result.1.bytes
            chunksTransferred := result.1.chunks } t
        sendChunks result (offset + result.1.chunkSize.toNat) t
  else (.ok result.1, t)
termination_by image.length - offset
decreasing_by
  have := result.2
  omega

/-- The part of `run` after the transfer loop. -/
def finish (result : FirmwareUpdateResult) (t : List (FirmwareEvent ρ)) :
    FirmwareUpdateResult × List (FirmwareEvent ρ) :=
  let finishRequest : FirmwareFinishRequest :=
    { updateSessionId := result.updateSessionId
      timeout := request.timeout
      sid := request.sid }
  let report := fun stage : FirmwareUpdateStage => { stage := stage
                                                     bytesTransferred := result.bytes
                                                     totalBytes := result.bytes
                                                     chunksTransferred := result.chunks }
  let t := notify observer (report .finishing) t
  let answer := svc.backend.finish (backendCalls t) finishRequest
  let t := t ++ [.call (.finish finishRequest)]
  match answer with
  | .error thrown =>
    (result.threw .finishFailed thrown "firmware finish failed" "firmware.finishUpdate", t)
  | .ok finish =>
    let result := { result with
      finish := finish
      protocolStatus := finish.status.protocolStatus }
    if !finish.status.ok then
      (result.failed .finishFailed finish.status.protocolStatus
        (statusMessage finish.status "firmware finish failed") "firmware.finishUpdate", t)
    else if !finish.accepted then
      (result.failed .rejected finish.status.protocolStatus "firmware update rejected"
        "firmware.finishUpdate", t)
    else
      ({ result with code := .success, message := "" }, notify observer (report .completed) t)

/-- What `run` does while it holds the lease. -/
def transfer (result : FirmwareUpdateResult) (t : List (FirmwareEvent ρ)) :
    FirmwareUpdateResult × List (FirmwareEvent ρ) :=
  match svc.begin observer request result t with
  | (.error result, t) => (result, t)
  | (.ok result, t) =>
    match svc.sendChunks observer image result 0 t with
    | (.error result, t) => (result, t)
    | (.ok result, t) => svc.finish observer request result t

/-- `FirmwareUpdateService::run`.  Only the lease provider's exceptions leave
    it; the lease is destroyed when the function returns. -/
def run : Except Thrown FirmwareUpdateResult × List (FirmwareEvent ρ) :=
  let t := notify observer {} []
  match request.validate with
  | .error (code, message) => (.ok (invalidResult code message request.fileId), t)
  | .ok () =>
    match (svc.file request.filePath).read with
    | .error (code, message) => (.ok (invalidResult code message request.fileId), t)
    | .ok image =>
      let result : FirmwareUpdateResult :=
        { fileId := request.fileId, bytes := image.length, md5 := Md5.md5Hex image }
      let t := notify observer { stage := .validating, totalBytes := result.bytes } t
      let t := notify observer { stage := .acquiringMaintenance, totalBytes := result.bytes } t
      match svc.maintenance request.deviceId with
      | .error thrown => (.error thrown, t)
      | .ok (lease, reason) =>
        if lease.isHeld then
          let done := svc.transfer observer request image result (t ++ [.leased lease])
          (.ok done.1, done.2 ++ lease.destroy.map .release)
        else
          (.ok { result with
              code := .busy
              message := if reason = "" then "maintenance lease busy" else reason },
            t ++ lease.destroy.map .release)

end FirmwareUpdateService

/-! ## The planned calls -/

/-- The request of chunk `i` of an update that began with the answer `begin`. -/
def FirmwareUpdateRequest.chunkRequest (request : FirmwareUpdateRequest) (image : List UInt8)
    (begin : FirmwareBeginResult) (i : ℕ) : FirmwareChunkRequest where
  updateSessionId := begin.updateSessionId
  streamId := begin.streamId
  sequenceId := UInt32.ofNat i
  cursor := i * (request.chunkSize begin).toNat
  data := piece (request.chunkSize begin).toNat image i

/-- The number of chunks. -/
def FirmwareUpdateRequest.chunkCount (request : FirmwareUpdateRequest) (image : List UInt8)
    (begin : FirmwareBeginResult) : ℕ :=
  pieceCount (request.chunkSize begin).toNat image

/-- The calls of an update that succeeds, when `begin` is answered by `begin`. -/
def FirmwareUpdateRequest.planned (request : FirmwareUpdateRequest) (image : List UInt8)
    (begin : FirmwareBeginResult) : List BackendCall :=
  .begin (request.beginRequest { bytes := image.length, md5 := Md5.md5Hex image }) ::
    ((List.range (request.chunkCount image begin)).map fun i =>
      .sendChunk (request.chunkRequest image begin i)) ++
    [.finish { updateSessionId := begin.updateSessionId
               timeout := request.timeout
               sid := request.sid }]

/-- Whether a call made after the calls `before` succeeds. -/
def FirmwareBackend.succeeds (backend : FirmwareBackend) (before : List BackendCall) :
    BackendCall → Bool
  | .begin request =>
    match backend.begin before request with
    | .ok answer => answer.status.ok && answer.updateSessionId != ""
    | .error _ => false
  | .sendChunk request =>
    match backend.sendChunk before request with
    | .ok status => status.ok
    | .error _ => false
  | .finish request =>
    match backend.finish before request with
    | .ok answer => answer.status.ok && answer.accepted
    | .error _ => false

/-- The first `k` calls of `plan` succeed. -/
def FirmwareBackend.Accepts (backend : FirmwareBackend) (plan : List BackendCall) (k : ℕ) : Prop :=
  ∀ j < k, ∃ c, plan[j]? = some c ∧ backend.succeeds (plan.take j) c = true

/-- Reports that never decrease and have come to at most `b`. -/
def Reports (t : List (FirmwareEvent ρ)) (b : ℕ) : Prop :=
  (reportedBytes t).Pairwise (· ≤ ·) ∧ ∀ x ∈ reportedBytes t, x ≤ b

/-- `t` continues `t₀` without an event of the lease. -/
def Continues (t₀ t : List (FirmwareEvent ρ)) : Prop :=
  ∃ more, t = t₀ ++ more ∧ ∀ e ∈ more, e.isLease = false

/-- The first `k` calls of `plan` have been made since `t₀`; all succeeded. -/
structure Transferred (backend : FirmwareBackend) (plan : List BackendCall) (k bytes : ℕ)
    (t₀ t : List (FirmwareEvent ρ)) : Prop where
  calls : backendCalls t = plan.take k
  accepted : backend.Accepts plan k
  reports : Reports t bytes
  continues : Continues t₀ t

/-- The first `k` calls of `plan` succeeded and the next one failed. -/
structure Stopped (backend : FirmwareBackend) (plan : List BackendCall) (k bytes : ℕ)
    (t₀ t : List (FirmwareEvent ρ)) : Prop where
  calls : backendCalls t = plan.take (k + 1)
  accepted : backend.Accepts plan k
  refused : ∃ c, plan[k]? = some c ∧ backend.succeeds (plan.take k) c = false
  reports : Reports t bytes
  continues : Continues t₀ t

/-- A part of the update that gives `a`, or fails with one of its calls. -/
inductive Attempted {α : Type} (backend : FirmwareBackend) (plan : List BackendCall)
    (t₀ : List (FirmwareEvent ρ)) (P : α → List (FirmwareEvent ρ) → Prop) :
    Except FirmwareUpdateResult α × List (FirmwareEvent ρ) → Prop
  | ok {a : α} {t : List (FirmwareEvent ρ)} (h : P a t) : Attempted backend plan t₀ P (.ok a, t)
  | failed {result : FirmwareUpdateResult} {t : List (FirmwareEvent ρ)} {k bytes : ℕ}
      (hcode : result.code ≠ .success) (h : Stopped backend plan k bytes t₀ t) :
      Attempted backend plan t₀ P (.error result, t)

/-- All calls of `plan` succeeded, or one failed and is the last one. -/
inductive Finished (backend : FirmwareBackend) (plan : List BackendCall)
    (t₀ : List (FirmwareEvent ρ)) : FirmwareUpdateResult × List (FirmwareEvent ρ) → Prop
  | success {r : FirmwareUpdateResult × List (FirmwareEvent ρ)} {bytes : ℕ}
      (hcode : r.1.code = .success) (h : Transferred backend plan plan.length bytes t₀ r.2) :
      Finished backend plan t₀ r
  | failed {r : FirmwareUpdateResult × List (FirmwareEvent ρ)} {k bytes : ℕ}
      (hcode : r.1.code ≠ .success) (h : Stopped backend plan k bytes t₀ r.2) :
      Finished backend plan t₀ r

theorem Continues.refl (t : List (FirmwareEvent ρ)) : Continues t t := ⟨[], by simp, by simp⟩

theorem Continues.concat {t₀ : List (FirmwareEvent ρ)} (h : Continues t₀ t) {e : FirmwareEvent ρ}
    (he : e.isLease = false) : Continues t₀ (t ++ [e]) := by
  obtain ⟨more, rfl, hmore⟩ := h
  refine ⟨more ++ [e], by simp, fun e' he' => ?_⟩
  rcases List.mem_append.1 he' with h' | h'
  · exact hmore e' h'
  · rw [List.mem_singleton.1 h', he]

theorem Reports.concat {b : ℕ} (h : Reports t b) (hp : b ≤ p.bytesTransferred) :
    Reports (t ++ [.progress p]) p.bytesTransferred := by
  have happ : reportedBytes (t ++ [.progress p]) = reportedBytes t ++ [p.bytesTransferred] := by
    simp [reportedBytes]
  constructor
  · rw [happ, List.pairwise_append]
    refine ⟨h.1, List.pairwise_singleton _ _, fun x hx y hy => ?_⟩
    rw [List.mem_singleton.1 hy]
    exact (h.2 x hx).trans hp
  · intro x hx
    rw [happ, List.mem_append, List.mem_singleton] at hx
    rcases hx with hx | rfl
    · exact (h.2 x hx).trans hp
    · exact le_rfl

theorem notify_eq (observer : FirmwareProgressObserver) (p : FirmwareUpdateProgress)
    (t : List (FirmwareEvent ρ)) :
    notify observer p t = t ∨ notify observer p t = t ++ [.progress p] := by
  cases observer with
  | none => exact .inl rfl
  | some f => right; unfold notify; dsimp only; split <;> rfl

@[simp] theorem backendCalls_notify (observer : FirmwareProgressObserver)
    (p : FirmwareUpdateProgress) (t : List (FirmwareEvent ρ)) :
    backendCalls (notify observer p t) = backendCalls t := by
  rcases notify_eq observer p t with h | h <;> simp [h, backendCalls]

theorem Reports.notify {b : ℕ} (h : Reports t b) (observer : FirmwareProgressObserver)
    (hp : b ≤ p.bytesTransferred) : Reports (notify observer p t) p.bytesTransferred := by
  rcases notify_eq observer p t with h' | h' <;> rw [h']
  · exact ⟨h.1, fun x hx => (h.2 x hx).trans hp⟩
  · exact h.concat hp

theorem Continues.notify {t₀ : List (FirmwareEvent ρ)} (h : Continues t₀ t)
    (observer : FirmwareProgressObserver) (p : FirmwareUpdateProgress) :
    Continues t₀ (notify observer p t) := by
  rcases notify_eq observer p t with h' | h' <;> rw [h']
  · exact h
  · exact h.concat rfl

section
variable {backend : FirmwareBackend} {plan : List BackendCall} {k bytes : ℕ}
  {t₀ t : List (FirmwareEvent ρ)}

theorem Transferred.notify (h : Transferred backend plan k bytes t₀ t)
    (observer : FirmwareProgressObserver) (hp : bytes ≤ p.bytesTransferred) :
    Transferred backend plan k p.bytesTransferred t₀ (notify observer p t) where
  calls := by rw [backendCalls_notify, h.calls]
  accepted := h.accepted
  reports := h.reports.notify observer hp
  continues := h.continues.notify observer p

theorem backendCalls_concat (t : List (FirmwareEvent ρ)) (c : BackendCall) :
    backendCalls (t ++ [.call c]) = backendCalls t ++ [c] := by
  simp [backendCalls]

theorem Reports.call (h : Reports t bytes) (c : BackendCall) :
    Reports (t ++ [.call c]) bytes := by
  have happ : reportedBytes (t ++ [.call c]) = reportedBytes t := by simp [reportedBytes]
  unfold Reports
  rwa [happ]

theorem Transferred.call (h : Transferred backend plan k bytes t₀ t) {c : BackendCall}
    (hc : plan[k]? = some c) (hs : backend.succeeds (plan.take k) c = true) :
    Transferred backend plan (k + 1) bytes t₀ (t ++ [.call c]) where
  calls := by rw [backendCalls_concat, h.calls, List.take_add_one, hc]; rfl
  accepted := by
    intro j hj
    rcases Nat.lt_succ_iff_lt_or_eq.1 hj with hj | rfl
    · exact h.accepted j hj
    · exact ⟨c, hc, hs⟩
  reports := h.reports.call c
  continues := h.continues.concat rfl

theorem Transferred.stop (h : Transferred backend plan k bytes t₀ t) {c : BackendCall}
    (hc : plan[k]? = some c) (hs : backend.succeeds (plan.take k) c = false) :
    Stopped backend plan k bytes t₀ (t ++ [.call c]) where
  calls := by rw [backendCalls_concat, h.calls, List.take_add_one, hc]; rfl
  accepted := h.accepted
  refused := ⟨c, hc, hs⟩
  reports := h.reports.call c
  continues := h.continues.concat rfl

/-- The first `m` calls were made, all of them successful but perhaps the last;
    only a call that failed is the last one early. -/
theorem Finished.outcome {r : FirmwareUpdateResult × List (FirmwareEvent ρ)}
    (h : Finished backend plan t₀ r) :
    ∃ m bytes, backendCalls r.2 = plan.take m ∧ backend.Accepts plan (m - 1) ∧
      (plan.take m = plan ∨
        ∃ before c, plan.take m = before ++ [c] ∧ backend.succeeds before c = false) ∧
      (r.1.code = .success ↔ plan.length ≤ m ∧ backend.Accepts plan plan.length) ∧
      Reports r.2 bytes ∧ Continues t₀ r.2 := by
  cases h with
  | success hcode h =>
    exact ⟨_, _, h.calls, fun j hj => h.accepted j (by omega), .inl List.take_length,
      iff_of_true hcode ⟨le_rfl, h.accepted⟩, h.reports, h.continues⟩
  | failed hcode h =>
    obtain ⟨c, hc, hrefused⟩ := h.refused
    refine ⟨_, _, h.calls, h.accepted, .inr ⟨_, c, ?_, hrefused⟩,
      iff_of_false hcode fun ⟨_, hacc⟩ => ?_, h.reports, h.continues⟩
    · rw [List.take_add_one, hc]; rfl
    obtain ⟨c', hc', haccepted⟩ := hacc _ (List.getElem?_eq_some_iff.1 hc).1
    rw [hc, Option.some.injEq] at hc'
    rw [← hc', hrefused] at haccepted
    cases haccepted

end

/-! ## How far an update comes -/

section
variable {svc : FirmwareUpdateService ρ} {observer : FirmwareProgressObserver}
  {request : FirmwareUpdateRequest} {image : List UInt8} {begin : FirmwareBeginResult}
  {t₀ t : List (FirmwareEvent ρ)} {result : FirmwareUpdateResult}

theorem planned_chunk {i : ℕ} (hi : i < request.chunkCount image begin) :
    (request.planned image begin)[i + 1]? =
      some (.sendChunk (request.chunkRequest image begin i)) := by
  rw [FirmwareUpdateRequest.planned, List.cons_append, List.getElem?_cons_succ,
    List.getElem?_append_left (by simpa using hi)]
  simp [hi]

variable (request image begin) in
theorem planned_finish :
    (request.planned image begin)[request.chunkCount image begin + 1]? =
      some (.finish { updateSessionId := begin.updateSessionId
                      timeout := request.timeout
                      sid := request.sid }) := by
  rw [FirmwareUpdateRequest.planned, List.cons_append, List.getElem?_cons_succ,
    List.getElem?_append_right (by simp)]
  simp

variable (request image begin) in
theorem length_planned :
    (request.planned image begin).length = request.chunkCount image begin + 2 := by
  simp [FirmwareUpdateRequest.planned]

/-- If the backend answers `begin`, its answer is `begin`. -/
def FirmwareBackend.Answers (backend : FirmwareBackend) (request : FirmwareUpdateRequest)
    (image : List UInt8) (begin : FirmwareBeginResult) : Prop :=
  ∀ answer, backend.begin [] (request.beginRequest
    { bytes := image.length, md5 := Md5.md5Hex image }) = .ok answer → answer = begin

/-- The fields of the result that the loop reads, before chunk `i`. -/
structure Begun (request : FirmwareUpdateRequest) (image : List UInt8)
    (begin : FirmwareBeginResult) (i : ℕ) (result : FirmwareUpdateResult) : Prop where
  updateSessionId : result.updateSessionId = begin.updateSessionId
  streamId : result.streamId = begin.streamId
  chunkSize : result.chunkSize = request.chunkSize begin
  chunks : result.chunks = UInt32.ofNat i
  bytes : result.bytes = image.length

theorem chunkSize_pos (h : request.preferredChunkSize ≠ 0) (begin : FirmwareBeginResult) :
    0 < (request.chunkSize begin).toNat := by
  have hpos : ∀ x : UInt32, x ≠ 0 → 0 < x.toNat := fun x hx =>
    Nat.pos_of_ne_zero fun h0 => hx (UInt32.toNat_inj.1 (by rw [h0]; rfl))
  unfold FirmwareUpdateRequest.chunkSize
  split_ifs with h0
  · exact hpos _ h
  · exact hpos _ h0

/-- The state in which `transfer` begins. -/
structure Prepared (request : FirmwareUpdateRequest) (image : List UInt8)
    (result : FirmwareUpdateResult) (t : List (FirmwareEvent ρ)) : Prop where
  chunkSize : request.preferredChunkSize ≠ 0
  calls : backendCalls t = []
  reports : Reports t 0
  bytes : result.bytes = image.length
  md5 : result.md5 = Md5.md5Hex image
  chunks : result.chunks = 0

theorem begin_spec (svc : FirmwareUpdateService ρ) (observer : FirmwareProgressObserver)
    (h : Prepared request image result t) :
    ∃ begin, svc.backend.Answers request image begin ∧
      Attempted svc.backend (request.planned image begin) t
        (fun begun t' => Begun request image begin 0 begun.1 ∧
          Transferred svc.backend (request.planned image begin) 1 0 t t')
        (svc.begin observer request result t) := by
  have hreq : request.beginRequest result =
      request.beginRequest { bytes := image.length, md5 := Md5.md5Hex image } := by
    simp only [FirmwareUpdateRequest.beginRequest, h.bytes, h.md5]
  -- before the call, nothing of any plan has been done
  have hstart (begin : FirmwareBeginResult) :
      Transferred svc.backend (request.planned image begin) 0 0 t
        (notify observer { stage := .beginning, totalBytes := result.bytes } t) :=
    Transferred.notify (p := { stage := .beginning, totalBytes := result.bytes })
      ⟨by rw [h.calls]; rfl, fun j hj => absurd hj (Nat.not_lt_zero j), h.reports, .refl t⟩
      observer le_rfl
  simp only [FirmwareUpdateService.begin, backendCalls_notify, h.calls, hreq]
  cases ha : svc.backend.begin [] (request.beginRequest
      { bytes := image.length, md5 := Md5.md5Hex image }) with
  | error thrown =>
    refine ⟨{}, fun answer h => ?_, .failed ?_ ((hstart {}).stop rfl ?_)⟩
    · rw [ha] at h; cases h
    · simp [FirmwareUpdateResult.threw]
    · simp [FirmwareBackend.succeeds, ha]
  | ok begin =>
    refine ⟨begin, fun answer h => by rw [ha] at h; cases h; rfl, ?_⟩
    dsimp only
    split_ifs with hok hid hsize
    · refine .failed ?_ ((hstart begin).stop rfl ?_)
      · simp [FirmwareUpdateResult.failed]
      · simp_all [FirmwareBackend.succeeds]
    · refine .failed ?_ ((hstart begin).stop rfl ?_)
      · simp [FirmwareUpdateResult.failed]
      · simp_all [FirmwareBackend.succeeds]
    · refine .ok ⟨⟨rfl, rfl, rfl, h.chunks, h.bytes⟩, (hstart begin).call rfl ?_⟩
      simp_all [FirmwareBackend.succeeds]
    · exact absurd (chunkSize_pos h.chunkSize begin) hsize

/-- The transfer loop, by induction on what is left of the image: before chunk
    `i` the offset is `i` times the chunk size. -/
theorem sendChunks_spec (observer : FirmwareProgressObserver) (result : BegunUpdate)
    (offset : ℕ) (t : List (FirmwareEvent ρ)) {i : ℕ}
    (hb : Begun request image begin i result.1)
    (hoffset : offset = i * (request.chunkSize begin).toNat)
    (hi : i ≤ request.chunkCount image begin)
    (h : Transferred svc.backend (request.planned image begin) (i + 1)
      (min image.length offset) t₀ t) :
    Attempted svc.backend (request.planned image begin) t₀
      (fun done t' => Begun request image begin (request.chunkCount image begin) done ∧
        Transferred svc.backend (request.planned image begin)
          (request.chunkCount image begin + 1) image.length t₀ t')
      (svc.sendChunks observer image result offset t) := by
  have hpos : 0 < (request.chunkSize begin).toNat := hb.chunkSize ▸ result.2
  have hlt : i < request.chunkCount image begin ↔ offset < image.length := by
    rw [hoffset]; exact lt_pieceCount hpos
  induction hn : image.length - offset using Nat.strong_induction_on
    generalizing i offset result t with
  | _ n ih =>
  rw [FirmwareUpdateService.sendChunks]
  split_ifs with hlen
  · have hchunk : ({ updateSessionId := result.1.updateSessionId
                     streamId := result.1.streamId
                     sequenceId := result.1.chunks
                     cursor := offset
                     data := (image.drop offset).take
                       (min result.1.chunkSize.toNat (image.length - offset)) } :
          FirmwareChunkRequest) = request.chunkRequest image begin i := by
      rw [hb.updateSessionId, hb.streamId, hb.chunks, hb.chunkSize, hoffset, ← List.length_drop,
        List.take_eq_take_min.symm]
      rfl
    have hreport : (if result.1.bytes = 0 then 0 else min result.1.bytes
        (offset + min result.1.chunkSize.toNat (image.length - offset))) =
        min image.length (offset + result.1.chunkSize.toNat) := by
      rw [hb.bytes, if_neg (by omega)]
      omega
    have hcall := planned_chunk (hlt.2 hlen)
    simp only [hchunk, h.calls, hreport]
    cases ha : svc.backend.sendChunk ((request.planned image begin).take (i + 1))
        (request.chunkRequest image begin i) with
    | error thrown =>
      refine .failed ?_ (h.stop hcall ?_)
      · simp [FirmwareUpdateResult.threw]
      · simp [FirmwareBackend.succeeds, ha]
    | ok status =>
      cases hok : status.ok with
      | false =>
        simp only [hok, Bool.not_false, if_true]
        refine .failed ?_ (h.stop hcall ?_)
        · simp [FirmwareUpdateResult.failed]
        · simp [FirmwareBackend.succeeds, ha, hok]
      | true =>
        have hnext := (h.call hcall (by simp [FirmwareBackend.succeeds, ha, hok])).notify observer
          (p := { stage := .transferring
                  bytesTransferred := min image.length (offset + result.1.chunkSize.toNat)
                  totalBytes := result.1.bytes
                  chunksTransferred := result.1.chunks + 1 })
          (by dsimp only; omega)
        have hoffset' : offset + result.1.chunkSize.toNat =
            (i + 1) * (request.chunkSize begin).toNat := by
          rw [hb.chunkSize, hoffset, Nat.succ_mul]
        simp only [hok, Bool.not_true, Bool.false_eq_true, if_false]
        refine ih _ ?_ _ _ _ ⟨hb.updateSessionId, hb.streamId, hb.chunkSize, ?_, hb.bytes⟩ hoffset'
          (hlt.2 hlen) hnext ?_ rfl
        · have := result.2
          omega
        · rw [hb.chunks, UInt32.ofNat_add]
          rfl
        · rw [hoffset']
          exact lt_pieceCount hpos
  · have hcount : i = request.chunkCount image begin := by
      have := mt hlt.1 hlen
      omega
    refine .ok ⟨hcount ▸ hb, ?_⟩
    rw [min_eq_left (by omega), hcount] at h
    exact h

theorem finish_spec (hb : Begun request image begin (request.chunkCount image begin) result)
    (h : Transferred svc.backend (request.planned image begin)
      (request.chunkCount image begin + 1) image.length t₀ t) :
    Finished svc.backend (request.planned image begin) t₀
      (svc.finish observer request result t) := by
  have hcall := planned_finish request image begin
  have hfinishing := h.notify observer
    (p := { stage := .finishing
            bytesTransferred := result.bytes
            totalBytes := result.bytes
            chunksTransferred := result.chunks }) hb.bytes.ge
  have hbytes := hb.bytes
  rw [hbytes] at hfinishing
  simp only [FirmwareUpdateService.finish, backendCalls_notify, h.calls, hb.updateSessionId, hbytes]
  cases ha : svc.backend.finish
      ((request.planned image begin).take (request.chunkCount image begin + 1))
      { updateSessionId := begin.updateSessionId, timeout := request.timeout, sid := request.sid } with
  | error thrown =>
    refine .failed ?_ (hfinishing.stop hcall ?_)
    · simp [FirmwareUpdateResult.threw]
    · simp [FirmwareBackend.succeeds, ha]
  | ok answer =>
    dsimp only
    split_ifs with hok haccepted
    · refine .failed ?_ (hfinishing.stop hcall ?_)
      · simp [FirmwareUpdateResult.failed]
      · simp_all [FirmwareBackend.succeeds]
    · refine .failed ?_ (hfinishing.stop hcall ?_)
      · simp [FirmwareUpdateResult.failed]
      · simp_all [FirmwareBackend.succeeds]
    · refine .success rfl (?_ : Transferred _ _ _ image.length _ _)
      rw [length_planned]
      refine (hfinishing.call hcall ?_).notify observer
        (p := { stage := .completed
                bytesTransferred := image.length
                totalBytes := image.length
                chunksTransferred := result.chunks }) le_rfl
      simp_all [FirmwareBackend.succeeds]

theorem transfer_spec (svc : FirmwareUpdateService ρ) (observer : FirmwareProgressObserver)
    (h : Prepared request image result t) :
    ∃ begin, svc.backend.Answers request image begin ∧
      Finished svc.backend (request.planned image begin) t
        (svc.transfer observer request image result t) := by
  obtain ⟨begin, hanswers, hbegin⟩ := begin_spec svc observer h
  refine ⟨begin, hanswers, ?_⟩
  unfold FirmwareUpdateService.transfer
  generalize svc.begin observer request result t = begun at hbegin
  cases hbegin with
  | failed hcode h => exact .failed hcode h
  | @ok begun t' h =>
    have hsend := sendChunks_spec observer begun 0 t' h.1 (Nat.zero_mul _).symm (Nat.zero_le _)
      (by simpa using h.2)
    dsimp only
    generalize svc.sendChunks observer image begun 0 t' = sent at hsend
    cases hsend with
    | failed hcode h => exact .failed hcode h
    | ok h => exact finish_spec h.1 h.2

/-- The calls so far, with a call that has been made and what came before. -/
theorem FirmwareBackend.Accepts.split {backend : FirmwareBackend} {plan : List BackendCall}
    {k m : ℕ} (h : backend.Accepts plan k) {before after : List BackendCall} {c : BackendCall}
    (hs : plan.take m = before ++ c :: after) (hk : before.length < k) :
    backend.succeeds before c = true := by
  obtain ⟨c', hc', hsucc⟩ := h before.length hk
  have hlen : before.length < m := by
    have := congrArg List.length hs
    simp at this
    omega
  have hget := congrArg (·[before.length]?) hs
  have hbefore := congrArg (List.take before.length) hs
  simp only [List.getElem?_take_of_lt hlen, List.getElem?_append_right le_rfl, Nat.sub_self,
    List.getElem?_cons_zero, hc', Option.some.injEq] at hget
  rw [List.take_take, min_eq_left hlen.le, List.take_left] at hbefore
  rwa [← hget, ← hbefore]

/-- Nothing but progress reports of no bytes. -/
structure Preparing (t : List (FirmwareEvent ρ)) : Prop where
  calls : backendCalls t = []
  reports : Reports t 0
  unleased : ∀ e ∈ t, e.isLease = false

theorem Preparing.nil : Preparing ([] : List (FirmwareEvent ρ)) :=
  ⟨rfl, ⟨List.Pairwise.nil, by simp [reportedBytes]⟩, by simp⟩

theorem Preparing.notify (h : Preparing t) (observer : FirmwareProgressObserver)
    (stage : FirmwareUpdateStage) (totalBytes : ℕ) :
    Preparing (notify observer { stage := stage, totalBytes := totalBytes } t) where
  calls := by rw [backendCalls_notify, h.calls]
  reports := h.reports.notify observer le_rfl
  unleased := by
    intro e he
    rcases notify_eq observer { stage := stage, totalBytes := totalBytes } t with h' | h'
    · exact h.unleased e (h' ▸ he)
    · rcases List.mem_append.1 (h' ▸ he) with he | he
      · exact h.unleased e he
      · rw [List.mem_singleton.1 he]; rfl

theorem Preparing.prepared (h : Preparing t) (hpref : request.preferredChunkSize ≠ 0)
    (lease : MaintenanceLease ρ) :
    Prepared request image
      { fileId := request.fileId, bytes := image.length, md5 := Md5.md5Hex image }
      (t ++ [.leased lease]) where
  chunkSize := hpref
  calls := by simpa [backendCalls] using h.calls
  reports := by simpa [Reports, reportedBytes] using h.reports
  bytes := rfl
  md5 := rfl
  chunks := rfl

theorem validate_spec (request : FirmwareUpdateRequest) :
    match request.validate with
    | .ok () => request.preferredChunkSize ≠ 0
    | .error (code, _) => code ≠ .success := by
  unfold FirmwareUpdateRequest.validate
  split_ifs <;> simp_all

theorem read_spec (file : FirmwareFile) :
    match file.read with
    | .ok image => image = file.image
    | .error (code, _) => code ≠ .success := by
  cases file with
  | unopened => simp [FirmwareFile.read]
  | sizeUnknown => simp [FirmwareFile.read]
  | opened bytes readable =>
    simp only [FirmwareFile.read]
    split_ifs <;> simp [FirmwareFile.image]

theorem destroy_of_not_held {lease : MaintenanceLease ρ} (h : lease.isHeld = false) :
    lease.destroy = [] := by
  obtain ⟨_ | s⟩ := lease
  · rfl
  · simp_all [MaintenanceLease.isHeld, MaintenanceLease.destroy, MaintenanceLeaseState.runRelease]

/-- The request and its file pass the checks of `run`, and the provider grants a lease. -/
def FirmwareUpdateService.Ready (svc : FirmwareUpdateService ρ) (request : FirmwareUpdateRequest) :
    Prop :=
  request.validate = .ok () ∧ (∃ image, (svc.file request.filePath).read = .ok image) ∧
    ∃ lease reason, svc.maintenance request.deviceId = .ok (lease, reason) ∧ lease.isHeld = true

/-- How `run` ends: before it holds a lease, or after `transfer`. -/
theorem run_cases (svc : FirmwareUpdateService ρ) (observer : FirmwareProgressObserver)
    (request : FirmwareUpdateRequest) :
    (¬svc.Ready request ∧ Preparing (svc.run observer request).2 ∧
        ∀ result, (svc.run observer request).1 = .ok result → result.code ≠ .success) ∨
      svc.Ready request ∧ ∃ lease result t, lease.released = false ∧ Preparing t ∧
        Prepared request (svc.file request.filePath).image result (t ++ [.leased ⟨some lease⟩]) ∧
        svc.run observer request =
          (.ok (svc.transfer observer request (svc.file request.filePath).image result
              (t ++ [.leased ⟨some lease⟩])).1,
            (svc.transfer observer request (svc.file request.filePath).image result
              (t ++ [.leased ⟨some lease⟩])).2 ++ lease.release.toList.map .release) := by
  have h₀ : Preparing (notify observer {} ([] : List (FirmwareEvent ρ))) :=
    Preparing.nil.notify observer .validating 0
  have hvalid := validate_spec request
  have hread := read_spec (svc.file request.filePath)
  simp only [FirmwareUpdateService.run]
  cases hv : request.validate with
  | error failure =>
    rw [hv] at hvalid
    exact Or.inl ⟨fun ⟨h, _⟩ => (by rw [hv] at h; cases h), h₀,
      fun result hr => by cases hr; exact hvalid⟩
  | ok _ =>
    rw [hv] at hvalid
    cases hf : (svc.file request.filePath).read with
    | error failure =>
      rw [hf] at hread
      exact Or.inl ⟨fun ⟨_, ⟨_, h⟩, _⟩ => (by rw [hf] at h; cases h), h₀,
        fun result hr => by cases hr; exact hread⟩
    | ok image =>
      rw [hf] at hread
      subst hread
      have h₁ := (h₀.notify observer .validating (svc.file request.filePath).image.length).notify
        observer .acquiringMaintenance (svc.file request.filePath).image.length
      cases hm : svc.maintenance request.deviceId with
      | error thrown =>
        exact Or.inl ⟨fun ⟨_, _, _, _, h, _⟩ => (by rw [hm] at h; cases h), h₁,
          fun result hr => by cases hr⟩
      | ok granted =>
        obtain ⟨lease, reason⟩ := granted
        cases hheld : lease.isHeld with
        | true =>
          obtain ⟨_ | s⟩ := lease
          · cases hheld
          · have hs : s.released = false := by simpa [MaintenanceLease.isHeld] using hheld
            refine Or.inr ⟨⟨hv, ⟨_, hf⟩, _, _, hm, hheld⟩, s,
              { fileId := request.fileId
                bytes := (svc.file request.filePath).image.length
                md5 := Md5.md5Hex (svc.file request.filePath).image },
              _, hs, h₁, h₁.prepared hvalid _, ?_⟩
            simp [hheld, MaintenanceLease.destroy, MaintenanceLeaseState.runRelease, hs]
        | false =>
          simp only [hheld, Bool.false_eq_true, if_false, destroy_of_not_held hheld, List.map_nil,
            List.append_nil]
          exact Or.inl ⟨fun ⟨_, _, _, _, h, hh⟩ => (by rw [hm] at h; cases h; simp_all), h₁,
            fun result hr => by cases hr; simp⟩

/-- The image bytes in a list of calls. -/
def chunkData (calls : List BackendCall) : List UInt8 :=
  (calls.filterMap fun | .sendChunk request => some request.data | _ => none).flatten

/-- The first `k + 1` planned calls carry the first `k` pieces of the image. -/
theorem chunkData_planned_take {k : ℕ} (hk : k ≤ request.chunkCount image begin) :
    chunkData ((request.planned image begin).take (k + 1)) =
      image.take (k * (request.chunkSize begin).toNat) := by
  have htake : (request.planned image begin).take (k + 1) =
      .begin (request.beginRequest { bytes := image.length, md5 := Md5.md5Hex image }) ::
        (List.range k).map fun i => .sendChunk (request.chunkRequest image begin i) := by
    rw [FirmwareUpdateRequest.planned, List.cons_append, List.take_succ_cons,
      List.take_append_of_le_length (by simpa using hk), ← List.map_take, List.take_range,
      min_eq_left hk]
  rw [htake, ← flatten_pieces]
  simp [chunkData, List.filterMap_map, FirmwareUpdateRequest.chunkRequest]

variable (request image begin) in
theorem chunkData_planned : chunkData (request.planned image begin) =
      chunkData ((request.planned image begin).take (request.chunkCount image begin + 1)) := by
  conv_lhs => rw [← List.take_append_drop (request.chunkCount image begin + 1)
    (request.planned image begin)]
  rw [List.drop_eq_getElem_cons (by rw [length_planned]; omega),
    List.drop_eq_nil_of_le (by rw [length_planned])]
  have hfinish := planned_finish request image begin
  rw [List.getElem?_eq_getElem (by rw [length_planned]; omega), Option.some.injEq] at hfinish
  simp [chunkData, hfinish]

theorem chunkData_prefix (m : ℕ) :
    chunkData ((request.planned image begin).take m) <+: image := by
  rcases m with _ | k
  · exact List.nil_prefix
  rcases le_or_gt k (request.chunkCount image begin) with hk | hk
  · rw [chunkData_planned_take hk]
    exact List.take_prefix _ _
  · rw [List.take_of_length_le (by rw [length_planned]; omega), chunkData_planned,
      chunkData_planned_take le_rfl]
    exact List.take_prefix _ _

/-- `finish` comes after all the chunks. -/
theorem chunkData_before_finish (hpref : request.preferredChunkSize ≠ 0) {m : ℕ}
    {before after : List BackendCall} {r : FirmwareFinishRequest}
    (h : (request.planned image begin).take m = before ++ .finish r :: after) :
    chunkData before = image := by
  have hpre : before ++ [.finish r] <+: request.planned image begin := by
    refine List.IsPrefix.trans ?_ (List.take_prefix m _)
    rw [h]
    exact ⟨after, by simp⟩
  obtain ⟨rest, hrest⟩ := hpre
  have hget : (request.planned image begin)[before.length]? = some (.finish r) := by
    rw [← hrest]; simp
  have hbefore : before = (request.planned image begin).take before.length := by
    rw [← hrest, List.append_assoc, List.take_left]
  -- the calls at the other positions are not `finish`
  have hlen : before.length = request.chunkCount image begin + 1 := by
    rcases hb : before.length with _ | i
    · rw [hb] at hget; cases hget
    · rw [hb] at hget
      have hi : i + 1 < (request.planned image begin).length :=
        (List.getElem?_eq_some_iff.1 hget).1
      rw [length_planned] at hi
      rcases lt_or_eq_of_le (Nat.le_of_lt_succ (Nat.lt_of_succ_lt_succ hi)) with hi | hi
      · rw [planned_chunk hi] at hget; cases hget
      · rw [hi]
  rw [hbefore, hlen, chunkData_planned_take le_rfl]
  exact List.take_of_length_le (length_le_pieceCount_mul (chunkSize_pos hpref begin) image)

theorem backendCalls_release (t : List (FirmwareEvent ρ)) (l : List ρ) :
    backendCalls (t ++ l.map .release) = backendCalls t := by
  simp [backendCalls, List.filterMap_map]

theorem reportedBytes_release (t : List (FirmwareEvent ρ)) (l : List ρ) :
    reportedBytes (t ++ l.map .release) = reportedBytes t := by
  simp [reportedBytes, List.filterMap_map]

theorem all_succeed_iff {backend : FirmwareBackend} {plan : List BackendCall} {m : ℕ} :
    (plan.length ≤ m ∧ backend.Accepts plan plan.length) ↔
      plan.take m = plan ∧ ∀ before c after, plan.take m = before ++ c :: after →
        backend.succeeds before c = true := by
  constructor
  · rintro ⟨hm, hacc⟩
    rw [List.take_of_length_le hm]
    refine ⟨rfl, fun before c after h => ?_⟩
    exact hacc.split (List.take_length.trans h) (by simp [h])
  · rintro ⟨hm, hall⟩
    have hlen : plan.length ≤ m := by
      have := congrArg List.length hm
      rw [List.length_take] at this
      omega
    refine ⟨hlen, fun j hj => ⟨plan[j], by simp [hj], ?_⟩⟩
    rw [hm] at hall
    exact hall _ _ (plan.drop (j + 1)) (by rw [List.getElem_cons_drop, List.take_append_drop])

theorem exists_answers (backend : FirmwareBackend) (request : FirmwareUpdateRequest)
    (image : List UInt8) : ∃ begin, backend.Answers request image begin := by
  cases h : backend.begin [] (request.beginRequest
      { bytes := image.length, md5 := Md5.md5Hex image }) with
  | error _ => exact ⟨{}, fun answer ha => by rw [h] at ha; cases ha⟩
  | ok begin => exact ⟨begin, fun answer ha => by rw [h] at ha; cases ha; rfl⟩

/-- **A firmware update hands over exactly the image.** -/
theorem firmware_transfer_exact (svc : FirmwareUpdateService ρ)
    (observer : FirmwareProgressObserver) (request : FirmwareUpdateRequest) :
    let image := (svc.file request.filePath).image
    let done := svc.run observer request
    let calls := backendCalls done.2
    ∃ begin, svc.backend.Answers request image begin ∧
      -- the calls
      calls <+: request.planned image begin ∧
      (request.chunkCount image begin < 2 ^ 32 → ∀ i < request.chunkCount image begin,
        (request.chunkRequest image begin i).sequenceId.toNat = i) ∧
      chunkData calls <+: image ∧
      (∀ before finish after, calls = before ++ .finish finish :: after →
        chunkData before = image) ∧
      (∀ before c after, calls = before ++ c :: after → after ≠ [] →
        svc.backend.succeeds before c = true) ∧
      -- the result
      ((∃ result, done.1 = .ok result ∧ result.code = .success) ↔
        calls = request.planned image begin ∧ ∀ before c after, calls = before ++ c :: after →
          svc.backend.succeeds before c = true) ∧
      -- the first call is made once a lease is granted, and the next one after each that succeeds
      (svc.Ready request → calls = request.planned image begin ∨
        ∃ before c, calls = before ++ [c] ∧ svc.backend.succeeds before c = false) ∧
      -- the lease
      ((¬svc.Ready request ∧ calls = [] ∧ ∀ e ∈ done.2, e.isLease = false) ∨
        svc.Ready request ∧ ∃ before lease during, lease.released = false ∧
          done.2 = before ++ [.leased ⟨some lease⟩] ++ during ++
            lease.release.toList.map .release ∧
          backendCalls before = [] ∧ ∀ e ∈ before ++ during, e.isLease = false) ∧
      -- the reports
      (reportedBytes done.2).Pairwise (· ≤ ·) := by
  intro image done calls
  have hseq (begin : FirmwareBeginResult) : request.chunkCount image begin < 2 ^ 32 →
      ∀ i < request.chunkCount image begin,
        (request.chunkRequest image begin i).sequenceId.toNat = i := fun hn i hi =>
    UInt32.toNat_ofNat_of_lt (hi.trans hn)
  obtain ⟨hnot, hprep, hfail⟩ | ⟨hgranted, lease, result, t, hlease, hprep, hready, hrun⟩ :=
    run_cases svc observer request
  · have hnil : calls = [] := hprep.calls
    obtain ⟨begin, hanswers⟩ := exists_answers svc.backend request image
    refine ⟨begin, hanswers, ?_, hseq begin, ?_, ?_, ?_, ?_, fun h => absurd h hnot, ?_,
      hprep.reports.1⟩
    · rw [hnil]; exact List.nil_prefix
    · rw [hnil]; exact List.nil_prefix
    · rw [hnil]
      intro before finish after h
      simp at h
    · rw [hnil]
      intro before c after h
      simp at h
    · refine iff_of_false (fun ⟨result, hr, hcode⟩ => hfail result hr hcode) fun ⟨h, _⟩ => ?_
      have hlen := congrArg List.length h
      rw [hnil, length_planned] at hlen
      simp at hlen
    · exact .inl ⟨hnot, hnil, hprep.unleased⟩
  · obtain ⟨begin, hanswers, hfinished⟩ := transfer_spec svc observer hready
    obtain ⟨m, bytes, hcalls, haccepts, hlast, hsuccess, hreports, during, hduring, hmore⟩ :=
      hfinished.outcome
    have hcalls' : calls = (request.planned image begin).take m := by
      show backendCalls (svc.run observer request).2 = _
      rw [hrun, backendCalls_release, hcalls]
    refine ⟨begin, hanswers, ?_, hseq begin, ?_, ?_, ?_, ?_, fun _ => hcalls' ▸ hlast, ?_, ?_⟩
    · rw [hcalls']; exact List.take_prefix _ _
    · rw [hcalls']; exact chunkData_prefix m
    · rw [hcalls']
      intro before finish after h
      exact chunkData_before_finish hready.chunkSize h
    · rw [hcalls']
      intro before c after h hafter
      refine haccepts.split h ?_
      have hlen := congrArg List.length h
      have hpos := List.length_pos_iff.2 hafter
      rw [List.length_take, List.length_append, List.length_cons] at hlen
      omega
    · rw [hcalls', ← all_succeed_iff, ← hsuccess]
      show (∃ result, (svc.run observer request).1 = .ok result ∧ result.code = .success) ↔ _
      rw [hrun]
      exact ⟨fun ⟨result, hr, hcode⟩ => by cases hr; exact hcode, fun h => ⟨_, rfl, h⟩⟩
    · refine .inr ⟨hgranted, t, lease, during, hlease, ?_, hprep.calls, ?_⟩
      · show (svc.run observer request).2 = _
        rw [hrun, hduring]
      · intro e he
        exact (List.mem_append.1 he).elim (hprep.unleased e) (hmore e)
    · show (reportedBytes (svc.run observer request).2).Pairwise _
      rw [hrun, reportedBytes_release]
      exact hreports.1

/-- A service with a three-byte image whose backend asks for chunks of two. -/
def twoChunkService : FirmwareUpdateService Unit where
  backend :=
    { begin := fun _ _ => .ok { status := { ok := true }, updateSessionId := "u", chunkSize := 2 }
      sendChunk := fun _ _ => .ok { ok := true }
      finish := fun _ _ => .ok { status := { ok := true }, accepted := true } }
  maintenance := fun deviceId => .ok (.grantMaintenance deviceId (some ()), "")
  file := fun _ => .opened [1, 2, 3] true

/-- The whole image goes over in four calls. -/
theorem firmware_transfer_exact_two_chunks :
    let request : FirmwareUpdateRequest := { filePath := "f", deviceId := "d", fileId := "i" }
    let done := twoChunkService.run none request
    ∃ result, done.1 = .ok result ∧ result.code = .success ∧
      (backendCalls done.2).length = 4 ∧ chunkData (backendCalls done.2) = [1, 2, 3] := by
  intro request done
  obtain ⟨begin, hanswers, -, -, -, -, -, hsuccess, hnext, -⟩ :=
    firmware_transfer_exact twoChunkService none request
  obtain rfl := hanswers _ rfl
  have haccepts (before : List BackendCall) (c : BackendCall) :
      twoChunkService.backend.succeeds before c = true := by
    cases c <;> rfl
  have hcalls := (hnext ⟨by decide, ⟨_, rfl⟩, _, _, rfl, rfl⟩).resolve_right
    fun ⟨before, c, _, h⟩ => by rw [haccepts] at h; cases h
  obtain ⟨result, hresult, hcode⟩ := hsuccess.2 ⟨hcalls, fun before c _ _ => haccepts before c⟩
  exact ⟨result, hresult, hcode, by rw [hcalls]; decide +kernel, by rw [hcalls]; decide +kernel⟩

end

end

/-! ## The percent of a task

`percent_of` of `src/firmware/firmware_task.cpp` adds `transferred` a hundred
times and counts how often the sum passes `total`. -/

/-- The loop of `percent_of` after some steps: `percent` and `remainder`. -/
def percentLoop (transferred total : UInt64) : ℕ → ℕ × UInt64
  | 0 => (0, 0)
  | step + 1 =>
    let (percent, remainder) := percentLoop transferred total step
    let room := total - remainder
    if room ≤ transferred then (percent + 1, transferred - room)
    else (percent, remainder + transferred)

def percentOf (transferred total : UInt64) : ℕ :=
  if total = 0 then 0
  else if total ≤ transferred then 100
  else (percentLoop transferred total 100).1

/-- No operation of a step wraps: the difference is one of natural numbers, and so is the sum. -/
def PercentStepExact (transferred total remainder : UInt64) : Prop :=
  (total - remainder).toNat + remainder.toNat = total.toNat ∧
    (total - remainder ≤ transferred ∨ remainder.toNat + transferred.toNat < 2 ^ 64)

theorem percentStepExact {transferred total remainder : UInt64} (hr : remainder < total) :
    PercentStepExact transferred total remainder := by
  have hroom := UInt64.toNat_sub_of_le total remainder (UInt64.le_of_lt hr)
  have htotal := total.toNat_lt
  simp only [UInt64.lt_iff_toNat_lt] at hr
  simp only [PercentStepExact, UInt64.le_iff_toNat_le, hroom]
  omega

/-- What was added so far is `percent` times `total`, and the remainder. -/
theorem percentLoop_spec {transferred total : UInt64} (h : transferred < total) (step : ℕ) :
    (percentLoop transferred total step).1 * total.toNat +
        (percentLoop transferred total step).2.toNat = step * transferred.toNat ∧
      (percentLoop transferred total step).2 < total := by
  induction step with
  | zero =>
    simp only [UInt64.lt_iff_toNat_lt] at h ⊢
    simp [percentLoop]
    omega
  | succ step ih =>
    obtain ⟨hsum, hr⟩ := ih
    obtain ⟨hroom, hadd⟩ := @percentStepExact transferred _ _ hr
    simp only [percentLoop]
    generalize percentLoop transferred total step = s at *
    obtain ⟨percent, remainder⟩ := s
    simp only [UInt64.lt_iff_toNat_lt, UInt64.le_iff_toNat_le] at *
    split_ifs with hle
    · rw [UInt64.toNat_sub_of_le _ _ hle, Nat.succ_mul, Nat.succ_mul]
      omega
    · dsimp only
      rw [UInt64.toNat_add, Nat.mod_eq_of_lt (hadd.resolve_left hle), Nat.succ_mul]
      omega

/-- **The percent is exact**: a quotient of natural numbers, and no step wraps. -/
theorem percentOf_exact (transferred total : UInt64) :
    percentOf transferred total =
        (if total = 0 then 0 else min 100 (100 * transferred.toNat / total.toNat)) ∧
      (transferred < total → ∀ step,
        PercentStepExact transferred total (percentLoop transferred total step).2) := by
  refine ⟨?_, fun h step => percentStepExact (percentLoop_spec h step).2⟩
  unfold percentOf
  split_ifs with hzero hle
  · rfl
  · have hpos : 0 < total.toNat := Nat.pos_of_ne_zero fun h => hzero (UInt64.toNat_inj.1 h)
    have hquot : 100 ≤ 100 * transferred.toNat / total.toNat :=
      (Nat.le_div_iff_mul_le hpos).2 (Nat.mul_le_mul_left 100 hle)
    omega
  · have hlt : transferred < total := UInt64.not_le.1 hle
    obtain ⟨hsum, hr⟩ := percentLoop_spec hlt 100
    have hquot : 100 * transferred.toNat / total.toNat = (percentLoop transferred total 100).1 := by
      rw [← hsum]
      exact Nat.div_eq_of_lt_le (by omega) (by rw [Nat.succ_mul]; exact Nat.add_lt_add_left hr _)
    have hless : 100 * transferred.toNat / total.toNat < 100 :=
      Nat.div_lt_of_lt_mul (by rw [Nat.mul_comm]; exact Nat.mul_lt_mul_of_pos_right hlt (by decide))
    omega

end Axent
