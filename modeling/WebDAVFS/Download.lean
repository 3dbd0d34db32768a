import WebDAVFS.Transaction

/-!
# The download state of a node

`network_open` fills a node's cache file from a `GET`. `stream_get_transaction`
(webdav_network.c:1518–1750) reads the first `first_read_len` bytes of the response, stores them
in the cache file according to the status code (`200`: truncate and write from `0`; `206`:
append; anything else: leave the file alone), and then either marks the download finished or,
when more bytes remain, marks it in progress and hands the rest of the stream to the request
queue, whose worker runs `network_finish_download` (webdav_network.c:2751–2845).
`get_from_attributes_cache` (webdav_network.c:2427–2477) fills the cache file from the node's
AppleDouble header instead.

Each function is modelled on the fields of the node it reads and writes (`Node`) and on what the
cache-file system calls answer. The request queue's worker is not in the repository; how it marks
the node after `network_finish_download` is taken from the spec (`finishDownloadStatus`).

- `streamGetTransaction_frame`: an attempt that fails before the response header is in leaves
  the node untouched.
- `firstRead_ok`, `finishLoop_appends`: on a stream read in cuts that are never empty, the first
  read keeps every byte, and the worker appends a prefix of the rest of the body, all of it when
  it returns `0`.
- `storeFirstBytes_200`, `storeFirstBytes_206`: a 200 stores the first bytes exactly; a 206
  appends what `write` wrote, which may be fewer.
- `streamGetTransaction_ok`: what a success did, step by step.
-/

namespace WebDAVFS

/-- `file_status & WEBDAV_DOWNLOAD_STATUS_MASK`. The constants are in `webdavd.h`, which is not
in the repository. -/
inductive DownloadStatus where
  | never
  | inProgress
  | finished
  | aborted
  deriving DecidableEq, Repr

/-- The fields of a `node_entry` the network code reads and writes. -/
structure Node where
  /-- `file_status & WEBDAV_DOWNLOAD_STATUS_MASK`. -/
  fileStatus : DownloadStatus
  /-- The `WEBDAV_DOWNLOAD_TERMINATED` bit of `file_status`. -/
  terminated : Bool
  /-- The bytes of the cache file `file_fd`. -/
  cache : Bytes
  /-- `UF_NODUMP` among the cache file's flags. -/
  nodump : Bool
  fileLastModified : Int
  fileEntityTag : Option String
  fileValidatedTime : Int
  attrAppleDoubleHeader : Bytes
  attrAppleDoubleHeaderTime : Int
  /-- `attr_stat.st_mtimespec.tv_sec`. -/
  attrMtime : Int
  deriving DecidableEq, Repr

/-- `node->file_status = status`: the whole word is written, so the terminated bit is cleared. -/
def Node.setStatus (n : Node) (status : DownloadStatus) : Node :=
  { n with fileStatus := status, terminated := false }

/-! ## `stream_get_transaction` -/

/-- What the cache-file system calls of `stream_get_transaction` answer. -/
structure LocalIO where
  /-- `fchflags(file_fd, 0)`. -/
  clearFlagsOk : Bool
  /-- `ftruncate(file_fd, 0)`. -/
  truncateOk : Bool
  /-- `lseek`. -/
  seekOk : Bool
  /-- What `write` returns: the bytes written, or `none` for `-1`. -/
  written : Option Nat
  /-- `fchflags(file_fd, UF_NODUMP)`. -/
  setNoDumpOk : Bool
  /-- `requestqueue_enqueue_download` accepts the node and its record. -/
  enqueued : Bool
  deriving DecidableEq, Repr

/-- The first read of `stream_get_transaction` (webdav_network.c:1550–1603): up to
`firstReadLen` bytes, whether the stream is not yet at its end after them, and the stream after
them. -/
def firstRead (firstReadLen : Nat) :
    Nat → Bytes → BodyStream → Except StreamError (Bytes × Bool × BodyStream)
  | 0, buffer, s => .ok (buffer, false, s)
  | fuel + 1, buffer, s =>
    match s.read (firstReadLen - buffer.length) with
    | (.error e, _) => .error e
    | (.ok [], s') => .ok (buffer, false, s')
    | (.ok chunk, s') =>
      if firstReadLen ≤ buffer.length + chunk.length then
        .ok (buffer ++ chunk, !(s'.pending.isEmpty && s'.ending.isNone), s')
      else firstRead firstReadLen fuel (buffer ++ chunk) s'

/-- The `switch` on the status code (webdav_network.c:1633–1661): the node after the cache-file
calls, and whether they all succeeded. -/
def storeFirstBytes (n : Node) (status : Nat) (buffer : Bytes) (io : LocalIO) : Node × Bool :=
  if status = 200 then
    if !io.clearFlagsOk then (n, false) else
    let n := { n with nodump := false }
    if !io.truncateOk then (n, false) else
    let n := { n with cache := [] }
    if !io.seekOk then (n, false) else
    match io.written with
    | none => (n, false)
    | some w => ({ n with cache := buffer.take w }, w = buffer.length)
  else if status = 206 then
    if !io.clearFlagsOk then (n, false) else
    let n := { n with nodump := false }
    if !io.seekOk then (n, false) else
    match io.written with
    | none => (n, false)
    | some w => ({ n with cache := n.cache ++ buffer.take w }, true)
  else (n, true)

/-- What the network and the cache file do during one `stream_get_transaction`. -/
structure GetEvent where
  opening : OpenOutcome
  mallocOk : Bool
  /-- The response body as the stream delivers it. -/
  body : BodyStream
  /-- What `HandleSSLErrors` would meet on a failed read; this copy never asks it. -/
  readSSL : SSLEnv
  response : Option Response
  io : LocalIO

/-- What a `stream_get_transaction` leaves: its result, the error-handling state, the node, and
the rest of the stream when the body was handed to the request queue. -/
structure GetOutcome where
  result : Except Nat Response
  net : NetState
  node : Node
  handoff : Option BodyStream

/-- `stream_get_transaction` (webdav_network.c:1518–1750). -/
def streamGetTransaction (c : SSLErrorCodes) (firstReadLen : Nat) (gSuppressAllUI : Bool)
    (s : NetState) (n : Node) (ev : GetEvent) : GetOutcome :=
  if gSuppressAllUI && s.connection = .down then ⟨.error EIO, s, n, none⟩
  else
    match openStreamForTransaction c s ev.opening with
    | (0, s) =>
      if !ev.mallocOk then ⟨.error EIO, s, n, none⟩
      else
        match firstRead firstReadLen (ev.body.pending.length + 1) [] ev.body with
        | .error e =>
          let (r, s) := streamGetTransactionError c s ev.readSSL e
          ⟨.error r, s, n, none⟩
        | .ok (buffer, more, rest) =>
          match ev.response with
          | none => ⟨.error EIO, s, n, none⟩
          | some resp =>
            let (n, stored) := storeFirstBytes n resp.statusCode buffer ev.io
            if !stored then ⟨.error EIO, s, n, none⟩
            else
              let s := { s with connection := .up }
              if more && (resp.statusCode = 200 || resp.statusCode = 206) then
                if !ev.io.setNoDumpOk then ⟨.error EIO, s, n, none⟩
                else
                  let n := { n.setStatus .inProgress with nodump := true }
                  if ev.io.enqueued then ⟨.ok resp, s, n, some rest⟩
                  else ⟨.error EIO, s, n, none⟩
              else ⟨.ok resp, s, n.setStatus .finished, none⟩
    | (r, s) => ⟨.error r, s, n, none⟩

/-! ## `network_finish_download` -/

/-- What the cache file and the cancelling thread do while the download is finished. -/
structure FinishEnv where
  mallocOk : Bool
  /-- The turn of the loop from which the `WEBDAV_DOWNLOAD_TERMINATED` bit is seen set. -/
  terminatedFrom : Option Nat
  /-- What the `write` of each turn returns: the bytes written, or `none` for `-1`. -/
  written : Nat → Option Nat

/-- The loop of `network_finish_download` (webdav_network.c:2763–2810) from turn `i`: the result
and the cache file's bytes. -/
def finishLoop (env : FinishEnv) : Nat → Nat → Bytes → BodyStream → Nat × Bytes
  | 0, _, cache, _ => ( EIO, cache)
  | fuel + 1, i, cache, s =>
    if env.terminatedFrom.any (· ≤ i) then
      match s.read 1 with
      | (.ok [], _) => (0, cache)
      | _ => ( EIO, cache)
    else
      match s.read BODY_BUFFER_SIZE with
      | (.error _, _) => ( EIO, cache)
      | (.ok [], _) => (0, cache)
      | (.ok chunk, s') =>
        match env.written i with
        | some w =>
          if w = chunk.length then finishLoop env fuel (i + 1) (cache ++ chunk) s'
          else ( EIO, cache ++ chunk.take w)
        | none => ( EIO, cache)

/-- `network_finish_download` (webdav_network.c:2751–2845): it appends the rest of the body to
the cache file. -/
def networkFinishDownload (env : FinishEnv) (n : Node) (s : BodyStream) : Nat × Node :=
  if !env.mallocOk then ( EIO, n)
  else
    let (r, cache) := finishLoop env (s.pending.length + 1) 0 n.cache s
    (r, { n with cache := cache })

/-- Modelled from the spec: the request queue's worker, which is not in the repository, marks the
download finished when `network_finish_download` returns `0` and aborted otherwise (§5: "no more
bytes → mark finished; more bytes → mark aborted"). -/
def finishDownloadStatus (r : Nat) : DownloadStatus :=
  if r = 0 then .finished else .aborted

@[simp] theorem finishDownloadStatus_eq_finished {r : Nat} :
    finishDownloadStatus r = .finished ↔ r = 0 := by
  unfold finishDownloadStatus
  split_ifs <;> simp_all

/-- A handed-off download run to its end by the request queue's worker. -/
def completeDownload (env : FinishEnv) (n : Node) (s : BodyStream) : Node :=
  let (r, n) := networkFinishDownload env n s
  n.setStatus (finishDownloadStatus r)

/-- The node once a transaction is over: as the transaction left it, or, when the body was
handed to the request queue, as the worker's run of `network_finish_download` leaves it. -/
def GetOutcome.settled (o : GetOutcome) (env : FinishEnv) : Node :=
  match o.handoff with
  | none => o.node
  | some rest => completeDownload env o.node rest

/-! ## `get_from_attributes_cache` -/

/-- What the cache layer and the cache file answer during `get_from_attributes_cache`. -/
structure AttrCacheIO where
  /-- `node_appledoubleheader_valid(node, uid)`. -/
  headerValid : Bool
  clearFlagsOk : Bool
  seekOk : Bool
  truncateOk : Bool
  /-- What the `write` of the header returns, or `none` for `-1`. -/
  written : Option Nat
  /-- The unchecked `ftruncate` after a short write. -/
  retruncateOk : Bool
  deriving DecidableEq, Repr

/-- `get_from_attributes_cache` (webdav_network.c:2427–2477): whether the cache file now holds
the AppleDouble header, and the node. -/
def getFromAttributesCache (n : Node) (io : AttrCacheIO) : Bool × Node :=
  if !io.headerValid || !io.clearFlagsOk then (false, n)
  else
    let n := { n with nodump := false }
    if !io.seekOk || !io.truncateOk then (false, n)
    else if io.written = some n.attrAppleDoubleHeader.length then
      (true, { n.setStatus .finished with
        cache := n.attrAppleDoubleHeader
        fileValidatedTime := n.attrAppleDoubleHeaderTime
        fileLastModified := if n.attrMtime ≠ 0 then n.attrMtime else -1
        fileEntityTag := none })
    else
      (false, { n.setStatus .never with
        cache := if io.retruncateOk then [] else n.attrAppleDoubleHeader.take (io.written.getD 0)
        fileValidatedTime := 0
        fileLastModified := -1
        fileEntityTag := none })

/-! ## Frames -/

/-- The attempt gets as far as the status switch: the stream opens, the buffer is allocated, the
first read succeeds and the response header arrives. -/
def GetEvent.reachesSwitch (firstReadLen : Nat) (ev : GetEvent) : Bool :=
  ev.opening = .opened && ev.mallocOk &&
    (firstRead firstReadLen (ev.body.pending.length + 1) [] ev.body).isOk && ev.response.isSome

/-- An attempt that stops before the status switch leaves the node as it was. -/
theorem streamGetTransaction_frame (c : SSLErrorCodes) {frl : Nat} (g : Bool) (s : NetState)
    (n : Node) {ev : GetEvent} (h : ev.reachesSwitch frl = false) :
    (streamGetTransaction c frl g s n ev).node = n := by
  unfold streamGetTransaction
  split
  · rfl
  · split
    · next s₁ h₀ =>
      have hop := (openStreamForTransaction_zero h₀).1
      simp only [GetEvent.reachesSwitch, hop, decide_True, Bool.true_and] at h
      split
      · rfl
      · split
        · rfl
        · next hr =>
          cases hresp : ev.response
          · rfl
          · simp_all [Except.isOk, Except.toBool]
    · rfl

/-- Every `EAGAIN` of `stream_get_transaction` uses up budget. -/
theorem streamGetTransaction_spends (c : SSLErrorCodes) (frl : Nat) (g : Bool) {s : NetState}
    (hs : s.ssl.Conforms) (n : Node) (ev : GetEvent) :
    s.Spends (streamGetTransaction c frl g s n ev).net
      (resultCode (streamGetTransaction c frl g s n ev).result) := by
  unfold streamGetTransaction
  split
  · exact .quiet hs rfl rfl (by simp [resultCode])
  · split
    · next s₁ h₀ =>
      obtain rfl := (openStreamForTransaction_zero h₀).2
      split
      · exact .quiet hs rfl rfl (by simp [resultCode])
      · split
        · exact interpretStreamError_spends c false [] hs _ _
        · split
          · exact .quiet hs rfl rfl (by simp [resultCode])
          · dsimp only
            split
            · exact .quiet hs rfl rfl (by simp [resultCode])
            · split
              · split <;> (try split) <;> refine .quiet hs ?_ ?_ ?_ <;> simp [resultCode]
              · refine .quiet hs ?_ ?_ ?_ <;> simp [resultCode]
    · next r s₁ _ h₀ =>
      simpa [h₀] using openStreamForTransaction_spends (c := c) hs ev.opening

/-! ## The two read loops keep every byte -/

/-- **The first read keeps every byte.** On a stream that ends cleanly, read in cuts that are
never zero, with fuel for every byte, the first read of a buffer shorter than `firstReadLen` ends
with the buffer and the rest of the stream holding exactly the bytes there were, the buffer
filled up to `firstReadLen` or to the end of the body, and more to come exactly when bytes are
left. -/
theorem firstRead_ok {frl : Nat} : ∀ {fuel : Nat} {buffer : Bytes} {s : BodyStream},
    s.ending = none → (∀ k ∈ s.cuts, 0 < k) → buffer.length < frl → s.pending.length < fuel →
    ∃ buffer' rest, firstRead frl fuel buffer s = .ok (buffer', !rest.pending.isEmpty, rest) ∧
      buffer' ++ rest.pending = buffer ++ s.pending ∧
      buffer'.length = min frl (buffer.length + s.pending.length) ∧
      rest.ending = none ∧ ∀ k ∈ rest.cuts, 0 < k
  | 0, _, _, _, _, _, hf => absurd hf (Nat.not_lt_zero _)
  | fuel + 1, buffer, s, he, hc, hb, hf => by
    by_cases hp : s.pending = []
    · have hread : s.read (frl - buffer.length) = (.ok [], s) := by
        simp [BodyStream.read, hp, he]
      refine ⟨buffer, s, by simp [firstRead, hread, hp], by simp [hp], ?_, he, hc⟩
      simp only [hp, List.length_nil, add_zero]
      omega
    · obtain ⟨chunk, s', hread⟩ : ∃ chunk s', s.read (frl - buffer.length) = (.ok chunk, s') :=
        ⟨_, _, BodyStream.read_of_ne_nil hp _⟩
      have hne : chunk ≠ [] := fun h0 =>
        BodyStream.read_ne_nil (n := frl - buffer.length) hp (by omega) hc (by rw [hread, h0])
      obtain ⟨hcons, hend, hcuts⟩ := BodyStream.read_ok hread
      have hlen : chunk.length ≤ frl - buffer.length := by
        rw [BodyStream.read_of_ne_nil hp] at hread
        simp only [Prod.mk.injEq, Except.ok.injEq] at hread
        rw [← hread.1, List.length_take]
        omega
      have hsum : chunk.length + s'.pending.length = s.pending.length := by
        rw [← hcons, List.length_append]
      have hpos : 0 < chunk.length := List.length_pos.mpr hne
      by_cases hfull : frl ≤ buffer.length + chunk.length
      · refine ⟨buffer ++ chunk, s', ?_, by rw [← hcons, List.append_assoc], ?_,
          hend.trans he, fun k hk => hc k (hcuts k hk)⟩
        · simp [firstRead, hread, hfull, hend.trans he, List.isEmpty_iff]
        · simp only [List.length_append]
          omega
      · obtain ⟨buffer', rest, hrun, hcons', hlen', hrest⟩ :=
          @firstRead_ok frl fuel (buffer ++ chunk) s' (hend.trans he)
            (fun k hk => hc k (hcuts k hk)) (by simp only [List.length_append]; omega)
            (by omega)
        refine ⟨buffer', rest, ?_, by rw [hcons', List.append_assoc, hcons], ?_, hrest⟩
        · cases chunk with
          | nil => exact absurd rfl hne
          | cons x xs =>
            simp only [List.length_cons] at hfull
            simp [firstRead, hread, hfull, hrun]
        · rw [hlen', List.length_append]
          omega

/-- **The worker appends a prefix of the rest of the body**, and all of it when it returns `0`,
which it does only at the end of the stream, whether or not it was told to terminate. -/
theorem finishLoop_appends (env : FinishEnv) : ∀ {fuel i : Nat} {cache : Bytes} {s : BodyStream},
    (∀ k ∈ s.cuts, 0 < k) →
    ∃ p, (finishLoop env fuel i cache s).2 = cache ++ p ∧ p <+: s.pending ∧
      ((finishLoop env fuel i cache s).1 = 0 → p = s.pending)
  | 0, _, _, _, _ => ⟨[], by simp [finishLoop], List.nil_prefix, fun h => absurd h (by
      show ( EIO : Nat) ≠ 0; decide)⟩
  | fuel + 1, i, cache, s, hc => by
    have atEnd : ∀ {n : Nat} {s' : BodyStream}, 0 < n → s.read n = (.ok [], s') →
        s.pending = [] := fun hn hread => by
      by_contra hp
      exact BodyStream.read_ne_nil hp hn hc (by rw [hread])
    have eio : ∃ p, (( EIO, cache) : Nat × Bytes).2 = cache ++ p ∧ p <+: s.pending ∧
        ((( EIO, cache) : Nat × Bytes).1 = 0 → p = s.pending) :=
      ⟨[], by simp, List.nil_prefix, fun h => absurd h (by show ( EIO : Nat) ≠ 0; decide)⟩
    unfold finishLoop
    split
    · split
      · next s' hread => exact ⟨[], by simp, List.nil_prefix, fun _ => (atEnd one_pos hread).symm⟩
      · exact eio
    · split
      · exact eio
      · next s' hread =>
        exact ⟨[], by simp, List.nil_prefix, fun _ => (atEnd (by decide) hread).symm⟩
      · next chunk s' hne hread =>
        obtain ⟨hcons, -, hcuts⟩ := BodyStream.read_ok hread
        split
        · next w hw =>
          split
          · obtain ⟨p, h₁, h₂, h₃⟩ :=
              @finishLoop_appends env fuel (i + 1) (cache ++ chunk) s' fun k hk => hc k (hcuts k hk)
            refine ⟨chunk ++ p, by simp [h₁], ?_, fun h0 => by rw [h₃ h0, hcons]⟩
            rw [← hcons]
            exact (List.prefix_append_right_inj chunk).mpr h₂
          · exact ⟨chunk.take w, by simp,
              (List.take_prefix w chunk).trans (hcons ▸ List.prefix_append chunk s'.pending),
              fun h => absurd h (by show ( EIO : Nat) ≠ 0; decide)⟩
        · exact eio

/-- A 200 whose cache-file calls succeeded left the file holding the first bytes exactly: the
`write` is checked to be full. -/
theorem storeFirstBytes_200 {n : Node} {buffer : Bytes} {io : LocalIO}
    (h : (storeFirstBytes n 200 buffer io).2 = true) :
    (storeFirstBytes n 200 buffer io).1.cache = buffer := by
  simp only [storeFirstBytes, Nat.reduceEqDiff, ↓reduceIte] at h ⊢
  split_ifs at h ⊢
  rcases hw : io.written with _ | w <;> simp only [hw] at h ⊢
  · cases h
  · rw [of_decide_eq_true h, List.take_length]

/-- A 206 whose cache-file calls succeeded appended what the `write` wrote, which may be fewer
bytes than there were: the `write` is only checked not to fail. -/
theorem storeFirstBytes_206 {n : Node} {buffer : Bytes} {io : LocalIO}
    (h : (storeFirstBytes n 206 buffer io).2 = true) :
    ∃ w, io.written = some w ∧
      (storeFirstBytes n 206 buffer io).1.cache = n.cache ++ buffer.take w := by
  simp only [storeFirstBytes, Nat.reduceEqDiff, ↓reduceIte] at h ⊢
  split_ifs at h ⊢
  rcases hw : io.written with _ | w <;> simp only [hw] at h ⊢
  · cases h
  · exact ⟨w, rfl, rfl⟩

/-- **What a successful `stream_get_transaction` did**: the first read succeeded, the header
arrived and the calls of the status switch all succeeded; then, with more to come after a 200 or a
206, the download was marked in progress and handed off with the rest of the stream, and
otherwise it was marked finished. -/
theorem streamGetTransaction_ok {c : SSLErrorCodes} {frl : Nat} {g : Bool} {s : NetState}
    {n : Node} {ev : GetEvent} {resp : Response}
    (h : (streamGetTransaction c frl g s n ev).result = .ok resp) :
    ∃ buffer more rest,
      firstRead frl (ev.body.pending.length + 1) [] ev.body = .ok (buffer, more, rest) ∧
      ev.response = some resp ∧ (storeFirstBytes n resp.statusCode buffer ev.io).2 = true ∧
      ((more && (resp.statusCode = 200 || resp.statusCode = 206)) = true ∧
          (streamGetTransaction c frl g s n ev).node =
            { (storeFirstBytes n resp.statusCode buffer ev.io).1.setStatus .inProgress with
              nodump := true } ∧
          (streamGetTransaction c frl g s n ev).handoff = some rest ∨
        (more && (resp.statusCode = 200 || resp.statusCode = 206)) = false ∧
          (streamGetTransaction c frl g s n ev).node =
            (storeFirstBytes n resp.statusCode buffer ev.io).1.setStatus .finished ∧
          (streamGetTransaction c frl g s n ev).handoff = none) := by
  unfold streamGetTransaction at h ⊢
  split at h
  · cases h
  · next hg =>
    rw [if_neg hg]
    split at h
    · next s₁ h₀ =>
      split at h
      · cases h
      · next hm =>
        rw [if_neg hm]
        split at h
        · cases h
        · next buffer more rest hread =>
          refine ⟨buffer, more, rest, hread, ?_⟩
          split at h
          · cases h
          · next r hr =>
            rcases hst : storeFirstBytes n r.statusCode buffer ev.io with ⟨n₁, stored⟩
            simp only [hst] at h ⊢
            split at h
            · cases h
            · next hs =>
              rw [if_neg hs]
              split at h
              · next hmore =>
                rw [if_pos hmore]
                split at h
                · cases h
                · next hnd =>
                  rw [if_neg hnd]
                  split at h
                  · next henq =>
                    rw [if_pos henq]
                    obtain rfl : r = resp := by simpa using h
                    exact ⟨hr, by simpa [hst] using hs, .inl ⟨hmore, by simp [hst], rfl⟩⟩
                  · cases h
              · next hmore =>
                rw [if_neg hmore]
                obtain rfl : r = resp := by simpa using h
                exact ⟨hr, by simpa [hst] using hs, .inr ⟨by simpa using hmore, by simp [hst], rfl⟩⟩
    · cases h

end WebDAVFS
