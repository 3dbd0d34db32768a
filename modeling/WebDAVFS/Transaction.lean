import WebDAVFS.Body

/-!
# `open_stream_for_transaction`, `stream_transaction`, `stream_transaction_from_file`

The transaction functions share one skeleton (webdav_network.c:1392–2090): fail fast when the
mount suppresses UI and the connection is down; open a stream on a leased record
(`open_stream_for_transaction`); read the response; fetch the response header; mark the
connection up. Here each is a function of the error-handling state (`NetState`) and of what the
network and the local system do (`TransactionEvent`), and returns the C result: an `errno`, or
the response with its body.

The slot pool these functions lease from is modelled on its own, in `SlotPool`; the node state
that `stream_get_transaction` writes is in `Download`.

- `streamTransaction_spends`, `streamTransactionFromFile_spends`: every `EAGAIN` a transaction
  returns uses up budget (the EPIPE retry or an absent SSL key), and nothing restores it.
- `streamTransaction_body`: the body `stream_transaction` returns is exactly the bytes the
  stream delivered, and every read it issues fits the buffer.
-/

namespace WebDAVFS

/-- The parts of an HTTP response message the daemon reads. -/
structure Response where
  statusCode : Nat
  /-- The `Connection` header is `close`, compared case-insensitively. -/
  connectionClose : Bool
  /-- The `Last-Modified` header, as `DateStringToTime` reads it. -/
  lastModified : Option Int
  /-- The `ETag` header. -/
  entityTag : Option String
  deriving DecidableEq, Repr

/-- How `open_stream_for_transaction` gets on (webdav_network.c:1392–1509). -/
inductive OpenOutcome where
  /-- Creating the stream, setting a property, or `get_ReadStreamRec` fails: no lease. -/
  | failedBeforeLease
  /-- Setting `WebdavConnectionNumber` fails: the record is released. -/
  | failedAfterLease
  /-- `CFReadStreamOpen` fails with `e`; `HandleSSLErrors` meets `env`. -/
  | openFailed (env : SSLEnv) (e : StreamError)
  /-- The stream is open and attached to the leased record. -/
  | opened
  deriving DecidableEq, Repr

/-- The result of `open_stream_for_transaction`: `0` when the stream is open, else an error. -/
def openStreamForTransaction (c : SSLErrorCodes) (s : NetState) : OpenOutcome → Nat × NetState
  | .failedBeforeLease => ( EIO, s)
  | .failedAfterLease => ( EIO, s)
  | .openFailed env e => openStreamForTransactionError c s env e
  | .opened => (0, s)

/-- The C result code of a transaction's outcome. -/
def resultCode {α : Type} : Except Nat α → Nat
  | .error r => r
  | .ok _ => 0

@[simp] theorem resultCode_map {α β : Type} (f : α → β) (r : Except Nat α) :
    resultCode (r.map f) = resultCode r := by
  cases r <;> rfl

/-! ## `stream_transaction` -/

/-- What the network and the local system do during one `stream_transaction`. -/
structure TransactionEvent where
  opening : OpenOutcome
  /-- The response body as the stream delivers it. -/
  body : BodyStream
  /-- What `HandleSSLErrors` meets if a read fails. -/
  readSSL : SSLEnv
  /-- Whether `malloc` or `realloc` of `n` bytes succeeds. -/
  alloc : Nat → Bool
  /-- The response header the stream hands back, if it does. -/
  response : Option Response

/-- What `stream_transaction` returns: the response, the buffer, and the byte count. -/
structure Reply where
  response : Response
  buffer : Bytes
  count : Nat
  deriving DecidableEq, Repr

/-- The read loop as `stream_transaction` runs it: from a fresh buffer, with fuel for every
byte the stream has. -/
def streamTransactionRead (ev : TransactionEvent) : BodyRun :=
  readBody ev.alloc (ev.body.pending.length + 1) ⟨BODY_BUFFER_SIZE, []⟩ ev.body

/-- `stream_transaction` (webdav_network.c:1929–2090). -/
def streamTransaction (c : SSLErrorCodes) (gSuppressAllUI : Bool) (s : NetState)
    (ev : TransactionEvent) : Except Nat Reply × NetState :=
  if gSuppressAllUI && s.connection = .down then (.error EIO, s)
  else
    match openStreamForTransaction c s ev.opening with
    | (0, s) =>
      if ev.alloc BODY_BUFFER_SIZE then
        let run := streamTransactionRead ev
        match run.ending, ev.response with
        | .atEnd, some r =>
          (.ok ⟨r, run.buffer.contents, run.buffer.contents.length⟩,
            { s with connection := .up })
        | .readFailed e, _ =>
          let (r, s) := streamTransactionError c s ev.readSSL e
          (.error r, s)
        | _, _ => (.error EIO, s)
      else (.error EIO, s)
    | (r, s) => (.error r, s)

/-! ## `stream_transaction_from_file` -/

/-- What the network and the local system do during one `stream_transaction_from_file`. -/
structure FileTransactionEvent where
  /-- `lseek` to the end of the cache file and `CFStreamCreatePairWithSocket` succeed. -/
  fileOk : Bool
  opening : OpenOutcome
  body : BodyStream
  readSSL : SSLEnv
  alloc : Nat → Bool
  response : Option Response

/-- The loop of `stream_transaction_from_file` that reads and discards the response body
(webdav_network.c:1815–1850): `ok` at end of stream, or the stream's error. -/
def drainBody : Nat → BodyStream → Option (Except StreamError Unit)
  | 0, _ => none
  | fuel + 1, s =>
    match s.read BODY_BUFFER_SIZE with
    | (.error e, _) => some (.error e)
    | (.ok [], _) => some (.ok ())
    | (.ok _, s') => drainBody fuel s'

/-- `stream_transaction_from_file` (webdav_network.c:1762–1922). -/
def streamTransactionFromFile (c : SSLErrorCodes) (gSuppressAllUI : Bool) (s : NetState)
    (ev : FileTransactionEvent) : Except Nat Response × NetState :=
  if gSuppressAllUI && s.connection = .down then (.error EIO, s)
  else if !ev.fileOk then (.error EIO, s)
  else
    match openStreamForTransaction c s ev.opening with
    | (0, s) =>
      if ev.alloc BODY_BUFFER_SIZE then
        match drainBody (ev.body.pending.length + 1) ev.body, ev.response with
        | some (.ok ()), some r => (.ok r, { s with connection := .up })
        | some (.error e), _ =>
          let (r, s) := streamTransactionFromFileError c s ev.readSSL e
          (.error r, s)
        | _, _ => (.error EIO, s)
      else (.error EIO, s)
    | (r, s) => (.error r, s)

/-! ## Retry accounting -/

section Spending

variable {c : SSLErrorCodes} {s : NetState}

theorem openStreamForTransaction_spends (hs : s.ssl.Conforms) (o : OpenOutcome) :
    s.Spends (openStreamForTransaction c s o).2 (openStreamForTransaction c s o).1 := by
  cases o with
  | openFailed env e => exact interpretStreamError_spends c true _ hs env e
  | _ => exact .quiet hs rfl rfl (by simp [resultCode, openStreamForTransaction])

/-- The open succeeds only for an opened stream, and then leaves the state alone. -/
theorem openStreamForTransaction_zero {o : OpenOutcome} {s' : NetState}
    (h : openStreamForTransaction c s o = (0, s')) : o = .opened ∧ s' = s := by
  cases o with
  | opened => exact ⟨rfl, (Prod.mk.inj h).2.symm⟩
  | openFailed env e =>
    exfalso
    have h₁ := congrArg Prod.fst h
    simp only [openStreamForTransaction, openStreamForTransactionError, interpretStreamError,
      if_true, List.mem_singleton, retryOrDisconnect] at h₁
    split at h₁
    · next hr => exact absurd (hr.symm.trans h₁) (by decide)
    · split at h₁ <;> simp at h₁
  | _ => cases h

/-- Every `EAGAIN` of `stream_transaction` uses up budget. -/
theorem streamTransaction_spends (g : Bool) (hs : s.ssl.Conforms) (ev : TransactionEvent) :
    s.Spends (streamTransaction c g s ev).2 (resultCode (streamTransaction c g s ev).1) := by
  unfold streamTransaction
  split
  · exact .quiet hs rfl rfl (by simp [resultCode, openStreamForTransaction])
  · split
    · next s₁ h₀ =>
      obtain rfl := (openStreamForTransaction_zero h₀).2
      dsimp only
      split
      · split
        · refine .quiet hs ?_ ?_ ?_ <;> simp [resultCode]
        · exact interpretStreamError_spends c true _ hs _ _
        · exact .quiet hs rfl rfl (by simp [resultCode, openStreamForTransaction])
      · exact .quiet hs rfl rfl (by simp [resultCode, openStreamForTransaction])
    · next r s₁ _ h₀ =>
      simpa [h₀] using openStreamForTransaction_spends (c := c) hs ev.opening

/-- Every `EAGAIN` of `stream_transaction_from_file` uses up budget. -/
theorem streamTransactionFromFile_spends (g : Bool) (hs : s.ssl.Conforms)
    (ev : FileTransactionEvent) :
    s.Spends (streamTransactionFromFile c g s ev).2
      (resultCode (streamTransactionFromFile c g s ev).1) := by
  unfold streamTransactionFromFile
  split
  · exact .quiet hs rfl rfl (by simp [resultCode, openStreamForTransaction])
  · split
    · exact .quiet hs rfl rfl (by simp [resultCode, openStreamForTransaction])
    · split
      · next s₁ h₀ =>
        obtain rfl := (openStreamForTransaction_zero h₀).2
        dsimp only
        split
        · split
          · refine .quiet hs ?_ ?_ ?_ <;> simp [resultCode]
          · exact interpretStreamError_spends c false _ hs _ _
          · exact .quiet hs rfl rfl (by simp [resultCode, openStreamForTransaction])
        · exact .quiet hs rfl rfl (by simp [resultCode, openStreamForTransaction])
      · next r s₁ _ h₀ =>
        simpa [h₀] using openStreamForTransaction_spends (c := c) hs ev.opening

end Spending

/-- `stream_transaction` never fails with `0`. -/
theorem streamTransaction_error_ne_zero {c : SSLErrorCodes} {g : Bool} {s : NetState}
    {ev : TransactionEvent} {e : Nat} (h : (streamTransaction c g s ev).1 = .error e) :
    e ≠ 0 := by
  unfold streamTransaction at h
  split at h
  · cases h; decide
  split at h
  · dsimp only at h
    split at h
    · split at h
      · cases h
      · cases h
        exact interpretStreamError_ne_zero c true (by decide) _ _ _
      · cases h; decide
    · cases h; decide
  · next hr _ =>
    cases h
    exact hr

/-! ## The body `stream_transaction` returns -/

section Body

variable {c : SSLErrorCodes} {g : Bool} {s : NetState} {ev : TransactionEvent}

/-- `stream_transaction` returns a body only from a read loop that reached end of stream, and the
body is what the loop's buffer holds. -/
theorem streamTransaction_ok {reply : Reply} (h : (streamTransaction c g s ev).1 = .ok reply) :
    (streamTransactionRead ev).ending = .atEnd ∧
      reply.buffer = (streamTransactionRead ev).buffer.contents ∧
      reply.count = (streamTransactionRead ev).buffer.contents.length := by
  unfold streamTransaction at h
  split at h
  · cases h
  · split at h
    · dsimp only at h
      split at h
      · split at h
        · next he _ => cases h; exact ⟨he, rfl, rfl⟩
        · cases h
        · cases h
      · cases h
    · cases h

/-- With a transport that never cuts a read to zero bytes, the loop `stream_transaction` runs
stops at the stream's end with every byte, at its error, or at a failed allocation. -/
theorem streamTransactionRead_ending (hcuts : ∀ k ∈ ev.body.cuts, 0 < k) :
    ((streamTransactionRead ev).ending = .atEnd →
        (streamTransactionRead ev).buffer.contents = ev.body.pending ∧ ev.body.ending = none) ∧
      (∀ e, (streamTransactionRead ev).ending = .readFailed e → ev.body.ending = some e) ∧
      ((streamTransactionRead ev).ending = .reallocFailed → ∃ n, ev.alloc n = false) ∧
      (streamTransactionRead ev).ending ≠ .outOfFuel := by
  have hd := @readBody_delivered ev.alloc (ev.body.pending.length + 1) _ _ spacious_initial hcuts
  have ht := @readBody_terminates ev.alloc _ _ _ spacious_initial hcuts (Nat.lt_succ_self _)
  exact ⟨fun h => by simpa using hd.1 h, hd.2, ht.2, ht.1⟩

/-- **The body buffer never overflows and never truncates.** Take any body shorter than
`CFIndexMax - 2 * BODY_BUFFER_SIZE`, cut into reads by the transport in any way that never
returns zero bytes before the end, and any answers of the allocator. Every read the loop issues
asks for at least `BODY_BUFFER_SIZE / 2` bytes and ends exactly at the allocated size, which
stays below `CFIndexMax`; any body `stream_transaction` returns is exactly the delivered bytes,
with their count; and when the open succeeds, the stream ends, the header arrives and every
allocation succeeds, it returns that body. -/
theorem streamTransaction_body (hcuts : ∀ k ∈ ev.body.cuts, 0 < k)
    (hlen : ev.body.pending.length + 2 * BODY_BUFFER_SIZE < CFIndexMax) :
    (∀ q ∈ (streamTransactionRead ev).reads, BODY_BUFFER_SIZE / 2 ≤ q.bytesToRead ∧
        q.totalRead + q.bytesToRead = q.bufferSize ∧ q.bufferSize < CFIndexMax) ∧
      (∀ reply, (streamTransaction c g s ev).1 = .ok reply →
        reply.buffer = ev.body.pending ∧ reply.count = ev.body.pending.length) ∧
      (¬(g = true ∧ s.connection = .down) → ev.opening = .opened → ev.body.ending = none →
        (∀ n, ev.alloc n = true) → ∀ r, ev.response = some r →
          (streamTransaction c g s ev).1 =
            .ok ⟨r, ev.body.pending, ev.body.pending.length⟩) := by
  have he := streamTransactionRead_ending hcuts
  refine ⟨fun q hq => ?_, fun reply h => ?_, fun hup hopen hend halloc r hr => ?_⟩
  · have := readBody_reads spacious_initial hcuts q hq
    simp only [List.length_nil, zero_add] at this
    omega
  · obtain ⟨hat, hb, hc⟩ := streamTransaction_ok h
    rw [hb, hc, (he.1 hat).1]
    exact ⟨rfl, rfl⟩
  · have hat : (streamTransactionRead ev).ending = .atEnd := by
      rcases hrun : (streamTransactionRead ev).ending with _ | e | _ | _
      · rfl
      · simp [he.2.1 e hrun] at hend
      · obtain ⟨n, hn⟩ := he.2.2.1 hrun
        simp [halloc n] at hn
      · exact absurd hrun he.2.2.2
    have hg : (g && decide (s.connection = .down)) = false := by
      cases g <;> simp_all
    simp only [streamTransaction, hg, hopen, openStreamForTransaction, halloc, hat, hr,
      (he.1 hat).1]
    rfl

/-- The three-byte body `[1, 2, 3]` delivered in reads of at most two bytes comes back whole. -/
theorem streamTransaction_body_three_bytes :
    let r : Response := ⟨200, false, none, none⟩
    let ev : TransactionEvent :=
      ⟨.opened, ⟨[1, 2, 3], [2, 2], none⟩, ⟨true, true⟩, fun _ => true, some r⟩
    (∀ k ∈ ev.body.cuts, 0 < k) ∧
      ev.body.pending.length + 2 * BODY_BUFFER_SIZE < CFIndexMax ∧
      ((∀ q ∈ (streamTransactionRead ev).reads, BODY_BUFFER_SIZE / 2 ≤ q.bytesToRead ∧
          q.totalRead + q.bytesToRead = q.bufferSize ∧ q.bufferSize < CFIndexMax) ∧
        (∀ reply,
          (streamTransaction secureTransportCodes false ⟨true, .up, none⟩ ev).1 = .ok reply →
          reply.buffer = ev.body.pending ∧ reply.count = ev.body.pending.length) ∧
        (¬(false = true ∧ ConnectionState.up = .down) → ev.opening = .opened →
          ev.body.ending = none → (∀ n, ev.alloc n = true) → ∀ r, ev.response = some r →
            (streamTransaction secureTransportCodes false ⟨true, .up, none⟩ ev).1 =
              .ok ⟨r, ev.body.pending, ev.body.pending.length⟩)) :=
  ⟨by decide, by decide, streamTransaction_body (by decide) (by decide)⟩

end Body

end WebDAVFS
