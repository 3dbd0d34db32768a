import WebDAVFS.Basic

/-!
# The stream slot pool `gReadStreams` (webdav_network.c:81, 973–1048)

`gReadStreams` holds `WEBDAV_REQUEST_THREADS + 1` records, one per request thread and one for the
pulse thread. A transaction leases a record with `get_ReadStreamRec` in
`open_stream_for_transaction`, attaches its new stream to it, and gives it back with
`release_ReadStreamRec`. Only the lease and the release take `gNetworkGlobals_lock`; the `inUse`
flag alone keeps other threads off a leased record. `stream_get_transaction` may hand its record,
with the node, to the request queue, whose worker runs `network_finish_download` and releases
it.

The table is a list of records, each thread is the `Phase` of its current transaction, and the
request queue is the list of records handed to it. A `PoolStep` is one atomic action of a thread
or of the download worker, with the outcome the world gives it: the lease (all of
`get_ReadStreamRec`, under the lock), the open, the end of the transaction, the release with the
stream handling before it, and the end of a background download. The steps follow the record
handling of `open_stream_for_transaction` (webdav_network.c:1446–1509), `stream_transaction`
(2030–2080), `stream_transaction_from_file` (1855–1915), `stream_get_transaction`
(1660–1745) and `network_finish_download` (2751–2845). Any interleaving of steps of any number
of threads is a run.

- `getReadStreamRec_free`: `get_ReadStreamRec` hands out only a record of the table not in use.
- `getReadStreamRec_eq_leaseChoice`: its scan, with the first closed free record carried along,
  returns what its comment promises: the first free record whose stream is open, else the first
  free closed one, else `NULL`.
- `step_disciplined`, `run_disciplined`: over every run from the initial table, a record is in
  use exactly when one thread or one queued download holds it, and a record's stream is fit for
  reuse unless its holder is about to close it.
- `step_frame`, `PoolState.Disciplined.acts`: a step changes only the record it acts on, which
  it leases free or holds alone.
- `step_spoiled`, `run_spoiled`: after a transaction fails or is told `Connection: close`, only
  a new stream attached by a later lease makes the record's stream fit for reuse again.
- `slotPool_discipline`: all of it, in every state reachable from the initial table.
- `getReadStreamRec_none_full`: in every such state a lease fails only when the transactions in
  progress and the downloads queued hold at least as many records as the table has; a queued
  download holds one without any thread (`getReadStreamRec_none_full_handoff`).
-/

namespace WebDAVFS

/-! ## The table -/

/-- A `struct ReadStreamRec` (declared in `webdavd.h`, not in the repository), with the fields
the network code reads and writes; `uniqueValue`, set once in `network_init`, is left out. -/
structure ReadStreamRec where
  inUse : Bool
  /-- `readStreamRef != NULL`. -/
  readStreamRef : Bool
  /-- Set by `stream_get_transaction` from the response's `Connection` header, read by
  `network_finish_download`. -/
  connectionClose : Bool
  /-- Ghost: the last transaction on the stream neither failed nor was told
  `Connection: close`. -/
  reusable : Bool
  deriving DecidableEq, Repr

/-- A record as `network_init` leaves it: not in use, no stream (webdav_network.c:778–783). -/
def ReadStreamRec.initial : ReadStreamRec :=
  ⟨false, false, false, true⟩

/-- `release_ReadStreamRec`, after the stream was closed when `closing`. -/
def ReadStreamRec.release (r : ReadStreamRec) (closing : Bool) : ReadStreamRec :=
  { r with inUse := false, readStreamRef := r.readStreamRef && !closing }

/-- The loop of `get_ReadStreamRec` (webdav_network.c:985–1004) from `index`, with `result` the
first free record without a stream seen so far: it stops at the first free record that still
has a stream. -/
def scanReadStreams : Nat → Option Nat → List ReadStreamRec → Option Nat
  | _, result, [] => result
  | index, result, r :: rest =>
    if !r.inUse then
      if r.readStreamRef then some index
      else scanReadStreams (index + 1) (if result = none then some index else result) rest
    else scanReadStreams (index + 1) result rest

/-- `get_ReadStreamRec` (webdav_network.c:973–1022): a free record that still has a stream, else
the first free record, else `NULL`. -/
def getReadStreamRec (gReadStreams : List ReadStreamRec) : Option Nat :=
  scanReadStreams 0 none gReadStreams

theorem scanReadStreams_free {i : Nat} : ∀ {index : Nat} {result : Option Nat}
    {l : List ReadStreamRec}, scanReadStreams index result l = some i →
      result = some i ∨ index ≤ i ∧ ∃ r, l[i - index]? = some r ∧ r.inUse = false
  | _, _, [], h => .inl h
  | index, result, r :: rest, h => by
    unfold scanReadStreams at h
    have shift : ∀ {r' : ReadStreamRec}, rest[i - (index + 1)]? = some r' → index + 1 ≤ i →
        (r :: rest)[i - index]? = some r' := fun h' hi => by
      rw [show i - index = i - (index + 1) + 1 by omega, List.getElem?_cons_succ]
      exact h'
    split at h
    · next hfree =>
      split at h
      · cases h
        exact .inr ⟨le_rfl, r, by simp, by simpa using hfree⟩
      · rcases scanReadStreams_free h with h' | ⟨hi, r', hr', hfree'⟩
        · by_cases hres : result = none
          · rw [if_pos hres] at h'
            cases h'
            exact .inr ⟨le_rfl, r, by simp, by simpa using hfree⟩
          · rw [if_neg hres] at h'
            exact .inl h'
        · exact .inr ⟨by omega, r', shift hr' hi, hfree'⟩
    · rcases scanReadStreams_free h with h' | ⟨hi, r', hr', hfree'⟩
      · exact .inl h'
      · exact .inr ⟨by omega, r', shift hr' hi, hfree'⟩

/-- **`get_ReadStreamRec` never hands out a record in use**, nor one outside the table. -/
theorem getReadStreamRec_free {l : List ReadStreamRec} {i : Nat} (h : getReadStreamRec l = some i) :
    ∃ r, l[i]? = some r ∧ r.inUse = false := by
  rcases scanReadStreams_free h with h' | ⟨-, r, hr, hfree⟩
  · cases h'
  · exact ⟨r, by simpa using hr, hfree⟩

/-- What `get_ReadStreamRec` is for, in the words of its comment (webdav_network.c:967–970): a
record "not in use and open" (the first, as the loop breaks there), and "if that's not possible,
... the first ReadStreamRec that's not in use and closed". -/
def leaseChoice (gReadStreams : List ReadStreamRec) : Option Nat :=
  (gReadStreams.findIdx? fun r => !r.inUse && r.readStreamRef).or
    (gReadStreams.findIdx? fun r => !r.inUse && !r.readStreamRef)

/-- The scan from `index` with `result` the first free closed record seen so far. -/
theorem scanReadStreams_eq (index : Nat) (result : Option Nat) (l : List ReadStreamRec) :
    scanReadStreams index result l =
      (l.findIdx? (fun r => !r.inUse && r.readStreamRef) index).or
        (result.or (l.findIdx? (fun r => !r.inUse && !r.readStreamRef) index)) := by
  induction l generalizing index result with
  | nil => simp [scanReadStreams]
  | cons r rest ih =>
    rw [scanReadStreams, List.findIdx?_cons, List.findIdx?_cons]
    cases r.inUse <;> cases r.readStreamRef <;> cases result <;> simp [ih]

/-- **`get_ReadStreamRec` does what its comment says**: the first record not in use whose stream
is still open, else the first record not in use and closed, else `NULL`. -/
theorem getReadStreamRec_eq_leaseChoice (gReadStreams : List ReadStreamRec) :
    getReadStreamRec gReadStreams = leaseChoice gReadStreams := by
  simp [getReadStreamRec, leaseChoice, scanReadStreams_eq]

/-- `get_ReadStreamRec` returns `NULL` exactly when every record is in use. -/
theorem getReadStreamRec_eq_none {l : List ReadStreamRec} :
    getReadStreamRec l = none ↔ ∀ r ∈ l, r.inUse = true := by
  rw [getReadStreamRec, scanReadStreams_eq, Option.none_or, Option.or_eq_none,
    List.findIdx?_eq_none_iff, List.findIdx?_eq_none_iff, ← forall₂_and]
  refine forall₂_congr fun r _ => ?_
  cases r.inUse <;> cases r.readStreamRef <;> simp

/-! ## Threads and steps -/

/-- The transaction functions that lease a record. -/
inductive TransactionKind where
  | streamTransaction
  | streamTransactionFromFile
  /-- `stream_get_transaction`: it keeps `Connection: close` in the record and may hand the
  record to the request queue. -/
  | streamGetTransaction
  deriving DecidableEq, Repr

/-- Where a thread is in its current transaction. -/
inductive Phase where
  | idle
  /-- In `open_stream_for_transaction`, after `get_ReadStreamRec` leased record `i`. -/
  | leased (i : Nat) (kind : TransactionKind)
  /-- The new stream is on record `i` and the transaction reads the response. -/
  | reading (i : Nat) (kind : TransactionKind)
  /-- The transaction is done with record `i`; `closing` when the stream must be closed first. -/
  | done (i : Nat) (closing : Bool)
  deriving DecidableEq, Repr

/-- The record a phase holds. -/
def Phase.held : Phase → Option Nat
  | .idle => none
  | .leased i _ => some i
  | .reading i _ => some i
  | .done i _ => some i

/-- The phase holds record `j`. -/
def Phase.holds (ph : Phase) (j : Nat) : Bool :=
  ph.held = some j

/-- The phase will close record `j`'s stream before releasing it. -/
def Phase.closes : Phase → Nat → Bool
  | .done i true, j => i = j
  | _, _ => false

/-- How a transaction that opened its stream ends. -/
inductive Ending where
  /-- An error after the open: a failed read, `malloc` or `realloc`, a missing response header,
  a failed write to the cache file, or `requestqueue_enqueue_download` refusing the record. -/
  | failed
  /-- The response is in; `connectionClose` when its `Connection` header is `close`. -/
  | succeeded (connectionClose : Bool)
  /-- `stream_get_transaction` only: bytes remain and `requestqueue_enqueue_download` accepted
  the node and the record. -/
  | handedOff (connectionClose : Bool)
  deriving DecidableEq, Repr

/-- One atomic action of a thread `t` or of the download worker. -/
inductive PoolStep where
  /-- `open_stream_for_transaction` calls `get_ReadStreamRec` (failures before the call change
  nothing in the table). -/
  | begin (t : Nat) (kind : TransactionKind)
  /-- Setting `WebdavConnectionNumber` or `CFReadStreamOpen` fails (`ok = false`): the record is
  released with its old stream; or the old stream is closed and the new one attached. -/
  | opened (t : Nat) (ok : Bool)
  /-- The transaction ends. -/
  | finish (t : Nat) (e : Ending)
  /-- The transaction closes the stream when it must and releases the record. -/
  | release (t : Nat)
  /-- The request queue's worker ends `network_finish_download` for record `i`: `ok` when it
  read the body to its end. -/
  | download (i : Nat) (ok : Bool)
  deriving DecidableEq, Repr

/-- The table, the threads, and the records handed to the request queue. -/
structure PoolState where
  gReadStreams : List ReadStreamRec
  threads : List Phase
  downloads : List Nat
  deriving DecidableEq, Repr

/-- `m` records as `network_init` leaves them and `k` idle threads. -/
def PoolState.initial (m k : Nat) : PoolState :=
  ⟨List.replicate m .initial, List.replicate k .idle, []⟩

/-- Record `i`; outside the table, a record that is never in use. -/
def PoolState.record (st : PoolState) (i : Nat) : ReadStreamRec :=
  st.gReadStreams[i]?.getD .initial

def PoolState.setRecord (st : PoolState) (i : Nat) (r : ReadStreamRec) : PoolState :=
  { st with gReadStreams := st.gReadStreams.set i r }

def PoolState.setThread (st : PoolState) (t : Nat) (ph : Phase) : PoolState :=
  { st with threads := st.threads.set t ph }

/-- `requestqueue_enqueue_download` accepts record `i` with its node (requestqueue.c, not in the
repository): the worker will finish the download and release the record. -/
def PoolState.enqueueDownload (st : PoolState) (i : Nat) : PoolState :=
  { st with downloads := st.downloads ++ [i] }

/-- The request queue's worker is done with record `i`. -/
def PoolState.dequeueDownload (st : PoolState) (i : Nat) : PoolState :=
  { st with downloads := st.downloads.erase i }

/-- How many threads and queued downloads hold record `i`. -/
def PoolState.holders (st : PoolState) (i : Nat) : Nat :=
  st.threads.countP (·.holds i) + st.downloads.count i

/-- How many threads are about to close record `i`'s stream. -/
def PoolState.closers (st : PoolState) (i : Nat) : Nat :=
  st.threads.countP (·.closes i)

/-- One step of the pool. A step whose thread is not in the phase it needs changes nothing. -/
def step (st : PoolState) : PoolStep → PoolState
  | .begin t kind =>
    match st.threads[t]?, getReadStreamRec st.gReadStreams with
    | some .idle, some i =>
      (st.setRecord i { st.record i with inUse := true }).setThread t (.leased i kind)
    | _, _ => st
  | .opened t ok =>
    match st.threads[t]? with
    | some (.leased i kind) =>
      if ok then
        (st.setRecord i { st.record i with readStreamRef := true, reusable := true }).setThread t
          (.reading i kind)
      else (st.setRecord i ((st.record i).release false)).setThread t .idle
    | _ => st
  | .finish t e =>
    match st.threads[t]?, e with
    | some (.reading i _), .failed =>
      (st.setRecord i { st.record i with reusable := false }).setThread t (.done i true)
    | some (.reading i kind), .succeeded cc =>
      (st.setRecord i { st.record i with
        connectionClose :=
          if kind = .streamGetTransaction then cc else (st.record i).connectionClose
        reusable := (st.record i).reusable && !cc }).setThread t (.done i cc)
    | some (.reading i .streamGetTransaction), .handedOff cc =>
      ((st.setRecord i { st.record i with connectionClose := cc }).setThread t
        .idle).enqueueDownload i
    | _, _ => st
  | .release t =>
    match st.threads[t]? with
    | some (.done i closing) => (st.setRecord i ((st.record i).release closing)).setThread t .idle
    | _ => st
  | .download i ok =>
    if i ∈ st.downloads then
      (st.setRecord i
        ((st.record i).release (!ok || (st.record i).connectionClose))).dequeueDownload i
    else st

/-- A run: the steps of all threads and of the worker, interleaved in any order. -/
def run (st : PoolState) (es : List PoolStep) : PoolState :=
  es.foldl step st

/-! ## The invariant -/

/-- The lease discipline: a record is in use exactly when one thread or one queued download
holds it, and its stream is fit for reuse unless a thread is about to close it. -/
structure PoolState.Disciplined (st : PoolState) : Prop where
  holders_eq : ∀ j, st.holders j = if (st.record j).inUse then 1 else 0
  clean : ∀ j, (st.record j).readStreamRef = true →
    (st.record j).reusable = true ∨ 0 < st.closers j

/-! ## What a step does to the records and the holders -/

section Frame

variable {st : PoolState}

theorem PoolState.record_setRecord_self {i : Nat} (hi : i < st.gReadStreams.length)
    (r : ReadStreamRec) : (st.setRecord i r).record i = r := by
  simp [PoolState.record, PoolState.setRecord, hi]

theorem PoolState.record_setRecord_ne {i j : Nat} (hij : i ≠ j) (r : ReadStreamRec) :
    (st.setRecord i r).record j = st.record j := by
  simp [PoolState.record, PoolState.setRecord, List.getElem?_set, hij]

@[simp] theorem PoolState.setThread_record (t j : Nat) (ph : Phase) :
    (st.setThread t ph).record j = st.record j := rfl

theorem PoolState.record_lt {i : Nat} (h : (st.record i).inUse = true) :
    i < st.gReadStreams.length := by
  by_contra hi
  simp [PoolState.record, List.getElem?_eq_none (not_lt.mp hi), ReadStreamRec.initial] at h

/-- Counting after one thread changes phase. -/
theorem countP_set_of_getElem? {α : Type} (p : α → Bool) (new : α) :
    ∀ {l : List α} {t : Nat} {old : α}, l[t]? = some old →
      (l.set t new).countP p + (if p old then 1 else 0) =
        l.countP p + (if p new then 1 else 0)
  | [], _, _, h => by simp at h
  | a :: l, 0, old, h => by
    simp only [List.getElem?_cons_zero, Option.some.injEq] at h
    subst h
    simp only [List.set_cons_zero, List.countP_cons]
    omega
  | a :: l, t + 1, old, h => by
    rw [List.getElem?_cons_succ] at h
    have := countP_set_of_getElem? p new h
    simp only [List.set_cons_succ, List.countP_cons]
    omega

theorem PoolState.holders_setThread {t : Nat} {old : Phase} (h : st.threads[t]? = some old)
    (new : Phase) (j : Nat) :
    (st.setThread t new).holders j + (if old.holds j then 1 else 0) =
      st.holders j + (if new.holds j then 1 else 0) := by
  have := countP_set_of_getElem? (·.holds j) new h
  simp only [PoolState.holders, PoolState.setThread] at this ⊢
  omega

theorem PoolState.closers_setThread {t : Nat} {old : Phase} (h : st.threads[t]? = some old)
    (new : Phase) (j : Nat) :
    (st.setThread t new).closers j + (if old.closes j then 1 else 0) =
      st.closers j + (if new.closes j then 1 else 0) := by
  simpa only [PoolState.closers, PoolState.setThread] using
    countP_set_of_getElem? (·.closes j) new h

@[simp] theorem Phase.idle_holds (j : Nat) : Phase.idle.holds j = false := rfl

@[simp] theorem Phase.leased_holds (i j : Nat) (k : TransactionKind) :
    (Phase.leased i k).holds j = decide (i = j) := by
  simp [Phase.holds, Phase.held]

@[simp] theorem Phase.reading_holds (i j : Nat) (k : TransactionKind) :
    (Phase.reading i k).holds j = decide (i = j) := by
  simp [Phase.holds, Phase.held]

@[simp] theorem Phase.done_holds (i j : Nat) (c : Bool) :
    (Phase.done i c).holds j = decide (i = j) := by
  simp [Phase.holds, Phase.held]

@[simp] theorem Phase.idle_closes (j : Nat) : Phase.idle.closes j = false := rfl

@[simp] theorem Phase.leased_closes (i j : Nat) (k : TransactionKind) :
    (Phase.leased i k).closes j = false := rfl

@[simp] theorem Phase.reading_closes (i j : Nat) (k : TransactionKind) :
    (Phase.reading i k).closes j = false := rfl

@[simp] theorem Phase.done_closes (i j : Nat) (c : Bool) :
    (Phase.done i c).closes j = (c && decide (i = j)) := by
  cases c <;> rfl

@[simp] theorem PoolState.enqueueDownload_record (i j : Nat) :
    (st.enqueueDownload i).record j = st.record j := rfl

@[simp] theorem PoolState.enqueueDownload_closers (i j : Nat) :
    (st.enqueueDownload i).closers j = st.closers j := rfl

theorem PoolState.enqueueDownload_holders (i j : Nat) :
    (st.enqueueDownload i).holders j = st.holders j + if i = j then 1 else 0 := by
  simp only [PoolState.holders, PoolState.enqueueDownload, List.count_append, List.count_singleton']
  omega

@[simp] theorem PoolState.dequeueDownload_record (i j : Nat) :
    (st.dequeueDownload i).record j = st.record j := rfl

@[simp] theorem PoolState.dequeueDownload_closers (i j : Nat) :
    (st.dequeueDownload i).closers j = st.closers j := rfl

theorem PoolState.dequeueDownload_holders_ne {i j : Nat} (hij : i ≠ j) :
    (st.dequeueDownload i).holders j = st.holders j := by
  simp [PoolState.holders, PoolState.dequeueDownload, List.count_erase_of_ne (Ne.symm hij)]

theorem PoolState.dequeueDownload_holders_self {i : Nat} (hi : i ∈ st.downloads) :
    (st.dequeueDownload i).holders i + 1 = st.holders i := by
  have := List.count_pos_iff.mpr hi
  simp only [PoolState.holders, PoolState.dequeueDownload, List.count_erase_self]
  omega

@[simp] theorem PoolState.setRecord_holders (i j : Nat) (r : ReadStreamRec) :
    (st.setRecord i r).holders j = st.holders j := rfl

@[simp] theorem PoolState.setRecord_closers (i j : Nat) (r : ReadStreamRec) :
    (st.setRecord i r).closers j = st.closers j := rfl

theorem Phase.holds_of_closes {ph : Phase} {j : Nat} (h : ph.closes j) : ph.holds j := by
  cases ph with
  | done i closing => cases closing <;> simp_all [Phase.closes, Phase.holds, Phase.held]
  | _ => simp [Phase.closes] at h

theorem PoolState.closers_le_holders (j : Nat) : st.closers j ≤ st.holders j := by
  have := List.countP_mono_left (l := st.threads) fun ph _ (h : ph.closes j) =>
    Phase.holds_of_closes h
  unfold PoolState.closers PoolState.holders
  omega

end Frame

/-! ## The lease discipline is kept by every step -/

section Discipline

variable {st : PoolState}

/-- A held record is in use, and nobody else holds it. -/
theorem PoolState.Disciplined.of_holders_pos (hd : st.Disciplined) {i : Nat}
    (h : 0 < st.holders i) : (st.record i).inUse = true ∧ st.holders i = 1 := by
  have h₁ := hd.holders_eq i
  cases hu : (st.record i).inUse <;> simp only [hu, Bool.false_eq_true, if_false, if_true] at h₁
  · omega
  · exact ⟨rfl, h₁⟩

/-- A thread's record is in use, and nobody else holds it. -/
theorem PoolState.Disciplined.held (hd : st.Disciplined) {t : Nat} {ph : Phase} {i : Nat}
    (ht : st.threads[t]? = some ph) (hh : ph.holds i) :
    (st.record i).inUse = true ∧ st.holders i = 1 := by
  refine hd.of_holders_pos ?_
  have := (List.countP_pos_iff (p := (·.holds i))).mpr ⟨ph, List.getElem?_mem ht, hh⟩
  unfold PoolState.holders
  omega

/-- A queued record is in use, and nobody else holds it. -/
theorem PoolState.Disciplined.queued (hd : st.Disciplined) {i : Nat} (hq : i ∈ st.downloads) :
    (st.record i).inUse = true ∧ st.holders i = 1 := by
  refine hd.of_holders_pos ?_
  have := List.count_pos_iff.mpr hq
  unfold PoolState.holders
  omega

/-- A record held by a thread that will not close it has no thread about to close it. -/
theorem PoolState.Disciplined.closers_zero (hd : st.Disciplined) {t : Nat} {ph : Phase}
    {i : Nat} (ht : st.threads[t]? = some ph) (hh : ph.holds i) (hc : ph.closes i = false) :
    st.closers i = 0 := by
  have h₁ := (hd.held ht hh).2
  have h₂ := st.holders_setThread ht .idle i
  have h₃ := st.closers_setThread ht .idle i
  have h₄ := (st.setThread t .idle).closers_le_holders i
  simp only [hh, hc, Phase.idle_holds, Phase.idle_closes, if_true, Bool.false_eq_true,
    if_false] at h₂ h₃
  omega

/-- A record held by a queued download has no thread about to close it. -/
theorem PoolState.Disciplined.closers_zero_of_download (hd : st.Disciplined) {i : Nat}
    (hi : i ∈ st.downloads) : st.closers i = 0 := by
  have h₁ := hd.holders_eq i
  have h₂ := List.count_pos_iff.mpr hi
  have h₃ := st.closers_le_holders i
  have h₄ := List.countP_mono_left (l := st.threads) fun ph _ (h : ph.closes i) =>
    Phase.holds_of_closes h
  unfold PoolState.holders at h₁ h₃
  unfold PoolState.closers at h₃ ⊢
  split at h₁ <;> omega

/-- A step that changes only record `i`, and who holds or closes only record `i`, keeps the
discipline when record `i` comes out right. -/
theorem PoolState.Disciplined.only (hd : st.Disciplined) {st' : PoolState} {i : Nat}
    (hrec : ∀ j, j ≠ i → st'.record j = st.record j)
    (hholders : ∀ j, j ≠ i → st'.holders j = st.holders j)
    (hclosers : ∀ j, j ≠ i → st'.closers j = st.closers j)
    (hheld : st'.holders i = if (st'.record i).inUse then 1 else 0)
    (hclean : (st'.record i).readStreamRef = true →
      (st'.record i).reusable = true ∨ 0 < st'.closers i) :
    st'.Disciplined := by
  refine ⟨fun j => ?_, fun j => ?_⟩ <;> by_cases hj : j = i
  · exact hj ▸ hheld
  · rw [hholders j hj, hrec j hj]
    exact hd.holders_eq j
  · exact hj ▸ hclean
  · rw [hclosers j hj, hrec j hj]
    exact hd.clean j

theorem PoolState.holders_setThread_ne {t j : Nat} {old new : Phase}
    (h : st.threads[t]? = some old) (hold : old.holds j = false) (hnew : new.holds j = false) :
    (st.setThread t new).holders j = st.holders j ∧
      (st.setThread t new).closers j = st.closers j := by
  have h₁ := st.holders_setThread h new j
  have h₂ := st.closers_setThread h new j
  have hoc : old.closes j = false := by
    cases hc : old.closes j
    · rfl
    · simp [Phase.holds_of_closes hc] at hold
  have hnc : new.closes j = false := by
    cases hc : new.closes j
    · rfl
    · simp [Phase.holds_of_closes hc] at hnew
  simp only [hold, hnew, hoc, hnc, Bool.false_eq_true, if_false, add_zero] at h₁ h₂
  exact ⟨h₁, h₂⟩

/-- Thread `t` moves from `old` to `new`, both about record `i` or none, and record `i` becomes
`r`: the discipline is kept when record `i` comes out right. -/
theorem PoolState.Disciplined.move (hd : st.Disciplined) {t i : Nat} {old new : Phase}
    {r : ReadStreamRec} (ht : st.threads[t]? = some old) (hi : i < st.gReadStreams.length)
    (hold : ∀ j, j ≠ i → old.holds j = false) (hnew : ∀ j, j ≠ i → new.holds j = false)
    (hheld : (st.setThread t new).holders i = if r.inUse then 1 else 0)
    (hclean : r.readStreamRef = true → r.reusable = true ∨ 0 < (st.setThread t new).closers i) :
    ((st.setRecord i r).setThread t new).Disciplined :=
  hd.only (fun j hj => by simp [PoolState.record_setRecord_ne (Ne.symm hj)])
    (fun j hj => ((st.setRecord i r).holders_setThread_ne ht (hold j hj) (hnew j hj)).1)
    (fun j hj => ((st.setRecord i r).holders_setThread_ne ht (hold j hj) (hnew j hj)).2)
    (by simpa [PoolState.record_setRecord_self hi] using hheld)
    (by simpa [PoolState.record_setRecord_self hi] using hclean)

theorem Phase.holds_ne {ph : Phase} {i j : Nat} (h : ph.holds i) (hj : j ≠ i) :
    ph.holds j = false := by
  simp only [Phase.holds, decide_eq_true_eq] at h
  simp [Phase.holds, h, Ne.symm hj]

/-- A thread that holds record `i` and moves to another phase leaves `i` held and closed by that
phase alone. -/
theorem PoolState.Disciplined.advance (hd : st.Disciplined) {t i : Nat} {old : Phase}
    (ht : st.threads[t]? = some old) (hold : old.holds i) (new : Phase) :
    (st.setThread t new).holders i = (if new.holds i then 1 else 0) ∧
      (st.setThread t new).closers i = if new.closes i then 1 else 0 := by
  have h₁ := (hd.held ht hold).2
  have h₂ := st.holders_setThread ht new i
  have h₃ := st.holders_setThread ht .idle i
  have h₄ := st.closers_setThread ht new i
  have h₅ := st.closers_setThread ht .idle i
  have h₆ := (st.setThread t .idle).closers_le_holders i
  simp only [hold, if_true, Phase.idle_holds, Phase.idle_closes, Bool.false_eq_true,
    if_false, add_zero] at h₂ h₃ h₅
  omega

/-- Thread `t`, holding record `i`, moves to a phase that holds `i` or nothing, and record `i`
becomes `r`, in use exactly when the new phase holds it: the discipline is kept when a stream
left on `r` is fit for reuse or about to be closed by the new phase. -/
theorem PoolState.Disciplined.threadStep (hd : st.Disciplined) {t i : Nat} {old new : Phase}
    {r : ReadStreamRec} (ht : st.threads[t]? = some old) (hold : old.holds i)
    (hnew : ∀ j, j ≠ i → new.holds j = false) (huse : r.inUse = new.holds i)
    (hclean : r.readStreamRef = true → r.reusable = true ∨ new.closes i = true) :
    ((st.setRecord i r).setThread t new).Disciplined := by
  obtain ⟨hh, hc⟩ := hd.advance ht hold new
  refine hd.move ht (PoolState.record_lt (hd.held ht hold).1) (fun _ hj => Phase.holds_ne hold hj)
    hnew (by rw [hh, huse]) fun hs => ?_
  rw [hc]
  rcases hclean hs with h | h
  · exact .inl h
  · simp [h]

/-- `get_ReadStreamRec` leases a free record to an idle thread. -/
theorem begin_disciplined (hd : st.Disciplined) (t : Nat) (kind : TransactionKind) :
    (step st (.begin t kind)).Disciplined := by
  rw [step]
  split
  · next i ht hget =>
    obtain ⟨r, hr, hfree⟩ := getReadStreamRec_free hget
    have h0 : st.holders i = 0 := by
      simpa [PoolState.record, hr, hfree] using hd.holders_eq i
    have hh := st.holders_setThread ht (.leased i kind) i
    have hc := st.closers_setThread ht (.leased i kind) i
    refine hd.move ht (List.getElem?_eq_some_iff.mp hr).1 (fun _ _ => rfl)
      (fun _ hj => by simp [Ne.symm hj]) ?_ fun hs => ?_
    · simp only [Phase.idle_holds, Phase.leased_holds, decide_True, if_true, if_false,
        Bool.false_eq_true, add_zero, h0] at hh
      simp [hh]
    · simp only [Phase.idle_closes, Phase.leased_closes, Bool.false_eq_true, if_false,
        add_zero] at hc
      simpa [hc] using hd.clean i hs
  · exact hd

/-- The open fails and the record goes back with its old stream, or the old stream is closed
and the new one attached. -/
theorem opened_disciplined (hd : st.Disciplined) (t : Nat) (ok : Bool) :
    (step st (.opened t ok)).Disciplined := by
  rw [step]
  split
  · next i kind ht =>
    have hold : (Phase.leased i kind).holds i := by simp
    have hc0 := hd.closers_zero ht hold rfl
    split
    · exact hd.threadStep ht hold (fun _ hj => by simp [Ne.symm hj])
        (by simpa using (hd.held ht hold).1) fun _ => .inl rfl
    · refine hd.threadStep ht hold (fun _ _ => rfl) rfl fun hs => .inl ?_
      simp only [ReadStreamRec.release, Bool.not_false, Bool.and_true] at hs ⊢
      simpa [hc0] using hd.clean i hs
  · exact hd

/-- The transaction fails, takes in its response, or hands its record to the request queue. -/
theorem finish_disciplined (hd : st.Disciplined) (t : Nat) (e : Ending) :
    (step st (.finish t e)).Disciplined := by
  unfold step
  dsimp only
  split
  · next i kind ht =>
    have hold : (Phase.reading i kind).holds i := by simp
    exact hd.threadStep ht hold (fun _ hj => by simp [Ne.symm hj])
      (by simpa using (hd.held ht hold).1) fun _ => .inr (by simp)
  · next i kind cc ht =>
    have hold : (Phase.reading i kind).holds i := by simp
    refine hd.threadStep ht hold (fun _ hj => by simp [Ne.symm hj])
      (by simpa using (hd.held ht hold).1) fun hs => ?_
    cases cc
    · simpa [hd.closers_zero ht hold rfl] using hd.clean i hs
    · exact .inr (by simp)
  · next i cc ht =>
    have hold : (Phase.reading i .streamGetTransaction).holds i := by simp
    have hheld := hd.held ht hold
    have hi := PoolState.record_lt hheld.1
    have hc0 := hd.closers_zero ht hold rfl
    obtain ⟨hh, hc⟩ := hd.advance ht hold .idle
    have hstay : ∀ j, j ≠ i →
        ((st.setRecord i { st.record i with connectionClose := cc }).setThread t .idle).holders j =
          st.holders j ∧
        ((st.setRecord i { st.record i with connectionClose := cc }).setThread t .idle).closers j =
          st.closers j :=
      fun j hj => (st.setRecord i _).holders_setThread_ne ht (Phase.holds_ne hold hj) rfl
    refine hd.only (i := i) (fun j hj => ?_) (fun j hj => ?_) (fun j hj => ?_) ?_ fun hs => ?_
    · simp [PoolState.record_setRecord_ne (Ne.symm hj)]
    · simp [PoolState.enqueueDownload_holders, (hstay j hj).1, Ne.symm hj]
    · simpa using (hstay j hj).2
    · have h0 : (st.setThread t .idle).holders i = 0 := by simpa using hh
      simp only [PoolState.enqueueDownload_holders, PoolState.enqueueDownload_record,
        PoolState.setThread_record, PoolState.record_setRecord_self hi, if_true, hheld.1]
      exact congrArg (· + 1) h0
    · simp only [PoolState.enqueueDownload_record, PoolState.setThread_record,
        PoolState.record_setRecord_self hi] at hs ⊢
      exact .inl (by simpa [hc0] using hd.clean i hs)
  · exact hd

/-- The transaction closes its stream when it must and releases its record. -/
theorem release_disciplined (hd : st.Disciplined) (t : Nat) :
    (step st (.release t)).Disciplined := by
  rw [step]
  split
  · next i closing ht =>
    have hold : (Phase.done i closing).holds i := by simp
    refine hd.threadStep ht hold (fun _ _ => rfl) rfl fun hs => .inl ?_
    simp only [ReadStreamRec.release, Bool.and_eq_true, Bool.not_eq_true'] at hs ⊢
    simpa [hd.closers_zero ht hold (by simp [hs.2])] using hd.clean i hs.1
  · exact hd

/-- The worker ends a queued download: it closes the stream unless the body was read to its end
without `Connection: close`, and releases the record. -/
theorem download_disciplined (hd : st.Disciplined) (i : Nat) (ok : Bool) :
    (step st (.download i ok)).Disciplined := by
  rw [step]
  split
  · next hq =>
    obtain ⟨hu, h₁⟩ := hd.queued hq
    have hi := PoolState.record_lt hu
    have hc0 := hd.closers_zero_of_download hq
    have h₂ := (st.setRecord i ((st.record i).release (!ok || (st.record i).connectionClose)))
      |>.dequeueDownload_holders_self hq
    refine hd.only (i := i) (fun j hj => PoolState.record_setRecord_ne (Ne.symm hj) _)
      (fun j hj => ?_) (fun _ _ => rfl) ?_ fun hs => ?_
    · simp [PoolState.dequeueDownload_holders_ne (Ne.symm hj)]
    · simp only [PoolState.dequeueDownload_record, PoolState.record_setRecord_self hi,
        ReadStreamRec.release, PoolState.setRecord_holders, Bool.false_eq_true,
        if_false] at h₂ ⊢
      omega
    · rw [PoolState.dequeueDownload_record, PoolState.record_setRecord_self hi] at hs ⊢
      simp only [ReadStreamRec.release, Bool.and_eq_true] at hs ⊢
      simpa [hc0] using hd.clean i hs.1
  · exact hd

/-- **Every step keeps the lease discipline.** -/
theorem step_disciplined (hd : st.Disciplined) : ∀ e, (step st e).Disciplined
  | .begin t kind => begin_disciplined hd t kind
  | .opened t ok => opened_disciplined hd t ok
  | .finish t e => finish_disciplined hd t e
  | .release t => release_disciplined hd t
  | .download i ok => download_disciplined hd i ok

theorem initial_disciplined (m k : Nat) : (PoolState.initial m k).Disciplined := by
  have hrec : ∀ j, (PoolState.initial m k).record j = .initial := fun j => by
    simp only [PoolState.record, PoolState.initial, List.getElem?_replicate]
    split <;> rfl
  refine ⟨fun j => ?_, fun j h => ?_⟩ <;> rw [hrec] at *
  · simp [PoolState.holders, PoolState.initial, ReadStreamRec.initial]
  · exact .inl rfl

/-- **The discipline holds along every run** from a disciplined state, whatever the steps and
their order. -/
theorem run_disciplined (hd : st.Disciplined) (es : List PoolStep) : (run st es).Disciplined := by
  induction es generalizing st with
  | nil => exact hd
  | cons e es ih => exact ih (step_disciplined hd e)

end Discipline

/-! ## Each step touches one record, which it holds alone or leases free -/

/-- The record step `e` acts on: the one `get_ReadStreamRec` leases to an idle thread, the one
the step's thread holds, or the queued one the worker finishes. -/
def PoolStep.acts (st : PoolState) : PoolStep → Option Nat
  | .begin t _ => if st.threads[t]? = some .idle then getReadStreamRec st.gReadStreams else none
  | .opened t _ | .finish t _ | .release t => st.threads[t]?.bind Phase.held
  | .download i _ => if i ∈ st.downloads then some i else none

/-- The step is the lease of `get_ReadStreamRec`. -/
def PoolStep.leases : PoolStep → Bool
  | .begin _ _ => true
  | _ => false

section Frame

variable {st : PoolState}

theorem PoolState.eq_of_setRecord_ne {i j : Nat} {r : ReadStreamRec}
    (h : (st.setRecord i r).record j ≠ st.record j) : i = j :=
  by_contra fun hij => h (PoolState.record_setRecord_ne hij r)

/-- **A step changes only the record it acts on.** -/
theorem step_frame (e : PoolStep) {j : Nat} (h : (step st e).record j ≠ st.record j) :
    e.acts st = some j := by
  cases e with
  | begin t kind =>
    rw [step] at h
    split at h
    · next i ht hget =>
      simp only [PoolState.setThread_record] at h
      simp [PoolStep.acts, ht, hget, PoolState.eq_of_setRecord_ne h]
    · exact absurd rfl h
  | opened t ok =>
    rw [step] at h
    split at h
    · next i kind ht =>
      have hij : i = j := by split at h <;> exact PoolState.eq_of_setRecord_ne h
      simp [PoolStep.acts, ht, Phase.held, hij]
    · exact absurd rfl h
  | finish t e =>
    unfold step at h
    dsimp only at h
    split at h <;>
      first
      | exact absurd rfl h
      | next i _ ht =>
        simp only [PoolState.setThread_record, PoolState.enqueueDownload_record] at h
        simp [PoolStep.acts, ht, Phase.held, PoolState.eq_of_setRecord_ne h]
  | release t =>
    rw [step] at h
    split at h
    · next i closing ht =>
      simp only [PoolState.setThread_record] at h
      simp [PoolStep.acts, ht, Phase.held, PoolState.eq_of_setRecord_ne h]
    · exact absurd rfl h
  | download i ok =>
    rw [step] at h
    split at h
    · next hq =>
      simp only [PoolState.dequeueDownload_record] at h
      obtain rfl := PoolState.eq_of_setRecord_ne h
      simp [PoolStep.acts, hq]
    · exact absurd rfl h

/-- **The record a step acts on is one it leases free, or one it holds alone.** -/
theorem PoolState.Disciplined.acts (hd : st.Disciplined) {e : PoolStep} {i : Nat}
    (h : e.acts st = some i) :
    if e.leases then (st.record i).inUse = false ∧ i < st.gReadStreams.length
    else (st.record i).inUse = true ∧ st.holders i = 1 := by
  have thread : ∀ {t}, st.threads[t]?.bind Phase.held = some i →
      (st.record i).inUse = true ∧ st.holders i = 1 := fun h => by
    obtain ⟨ph, ht, hh⟩ := Option.bind_eq_some.mp h
    exact hd.held ht (by simp [Phase.holds, hh])
  cases e with
  | begin t kind =>
    simp only [PoolStep.acts, ite_eq_iff, reduceCtorEq, and_false, or_false] at h
    obtain ⟨r, hr, hfree⟩ := getReadStreamRec_free h.2
    exact ⟨by simp [PoolState.record, hr, hfree], (List.getElem?_eq_some_iff.mp hr).1⟩
  | opened t _ | finish t _ | release t => exact thread h
  | download j _ =>
    simp only [PoolStep.acts, ite_eq_iff, Option.some.injEq, reduceCtorEq, and_false,
      or_false] at h
    exact h.2 ▸ hd.queued h.1

theorem step_length (e : PoolStep) :
    (step st e).gReadStreams.length = st.gReadStreams.length := by
  cases e <;> unfold step <;> dsimp only <;> split <;> (try split) <;>
    simp [PoolState.setThread, PoolState.setRecord, PoolState.enqueueDownload,
      PoolState.dequeueDownload]

theorem run_length (es : List PoolStep) :
    (run st es).gReadStreams.length = st.gReadStreams.length := by
  induction es generalizing st with
  | nil => rfl
  | cons e es ih => exact ih.trans (step_length e)

end Frame

/-! ## A spoiled stream is not kept -/

/-- Step `e` ends the transaction on record `j` with an error or with `Connection: close`: a
thread's transaction fails or is told to close, or the worker's download does not read the body
to its end or was told to close. -/
def PoolStep.spoils (st : PoolState) (j : Nat) : PoolStep → Bool
  | .finish t .failed | .finish t (.succeeded true) =>
    match st.threads[t]? with
    | some (.reading i _) => i = j
    | _ => false
  | .download i ok => i = j && i ∈ st.downloads && (!ok || (st.record i).connectionClose)
  | _ => false

/-- Step `e` attaches a new stream to record `j`: the thread that leased `j` opened its stream. -/
def PoolStep.attaches (st : PoolState) (j : Nat) : PoolStep → Bool
  | .opened t true =>
    match st.threads[t]? with
    | some (.leased i _) => i = j
    | _ => false
  | _ => false

/-- Some step of `es`, run from `st`, attaches a new stream to record `j`. -/
def attachesIn (j : Nat) : PoolState → List PoolStep → Bool
  | _, [] => false
  | st, e :: es => e.attaches st j || attachesIn j (step st e) es

section Spoiled

variable {st : PoolState}

/-- Record `j`'s stream is gone, or its last transaction failed or was told to close. -/
def PoolState.Spoiled (st : PoolState) (j : Nat) : Prop :=
  (st.record j).reusable = false ∨ (st.record j).readStreamRef = false

theorem PoolState.record_setRecord (i j : Nat) (r : ReadStreamRec) :
    (st.setRecord i r).record j = st.record j ∨ i = j ∧ (st.setRecord i r).record j = r := by
  by_cases hij : i = j
  · subst hij
    by_cases hi : i < st.gReadStreams.length
    · exact .inr ⟨rfl, PoolState.record_setRecord_self hi r⟩
    · exact .inl (by
        simp [PoolState.record, PoolState.setRecord, List.set_eq_of_length_le (not_lt.mp hi)])
  · exact .inl (PoolState.record_setRecord_ne hij r)

/-- Replacing record `i` by `r`, which has a stream or is fit for reuse only if record `i` was,
keeps record `j` spoiled. -/
theorem PoolState.Spoiled.setRecord {i j : Nat} {r : ReadStreamRec} (hs : st.Spoiled j)
    (hr : r.reusable = true → (st.record i).reusable = true)
    (hs' : r.readStreamRef = true → (st.record i).readStreamRef = true) :
    (st.setRecord i r).Spoiled j := by
  rcases @PoolState.record_setRecord st i j r with h | ⟨rfl, h⟩ <;>
    simp only [PoolState.Spoiled, h] <;> [exact hs; skip]
  rcases hs with hs | hs
  · exact .inl (by cases hb : r.reusable <;> simp_all)
  · exact .inr (by cases hb : r.readStreamRef <;> simp_all)

/-- **Only an attach gives a spoiled record a fresh stream.** -/
theorem step_spoiled (e : PoolStep) {j : Nat} (hs : st.Spoiled j) (ha : e.attaches st j = false) :
    (step st e).Spoiled j := by
  have keep : ∀ {i r t ph}, (r.reusable = true → (st.record i).reusable = true) →
      (r.readStreamRef = true → (st.record i).readStreamRef = true) →
      ((st.setRecord i r).setThread t ph).Spoiled j := fun hr hs' => hs.setRecord hr hs'
  cases e with
  | begin t kind =>
    rw [step]
    split
    · exact keep id id
    · exact hs
  | opened t ok =>
    rw [step]
    split
    · next i kind ht =>
      split
      · next hok =>
        subst hok
        have hij : i ≠ j := by simpa [PoolStep.attaches, ht] using ha
        simpa [PoolState.Spoiled, PoolState.record_setRecord_ne hij] using hs
      · exact keep id (by simp [ReadStreamRec.release])
    · exact hs
  | finish t e =>
    unfold step
    dsimp only
    split
    · exact keep (by simp) id
    · exact keep (by simp_all) id
    · exact hs.setRecord id id
    · exact hs
  | release t =>
    rw [step]
    split
    · exact keep id (by simp_all [ReadStreamRec.release])
    · exact hs
  | download i ok =>
    rw [step]
    split
    · exact hs.setRecord id (by simp_all [ReadStreamRec.release])
    · exact hs

theorem run_spoiled {j : Nat} (es : List PoolStep) (hs : st.Spoiled j)
    (ha : attachesIn j st es = false) : (run st es).Spoiled j := by
  induction es generalizing st with
  | nil => exact hs
  | cons e es ih =>
    simp only [attachesIn, Bool.or_eq_false_iff] at ha
    exact ih (step_spoiled e hs ha.1) ha.2

theorem PoolStep.spoils_finish {t j : Nat} {e : Ending}
    (h : (PoolStep.finish t e).spoils st j) :
    ∃ kind, st.threads[t]? = some (.reading j kind) ∧
      (e = .failed ∨ e = .succeeded true) := by
  rcases e with _ | (_ | _) | _ <;> simp only [PoolStep.spoils, Bool.false_eq_true] at h
  all_goals
    split at h
    · next i kind ht => exact ⟨kind, by rw [ht, of_decide_eq_true h], by simp⟩
    · simp at h

/-- A spoiling step leaves its record spoiled. -/
theorem PoolState.Disciplined.step_spoils (hd : st.Disciplined) {e : PoolStep} {j : Nat}
    (h : e.spoils st j) : (step st e).Spoiled j := by
  cases e with
  | finish t e =>
    obtain ⟨kind, ht, he⟩ := PoolStep.spoils_finish h
    have hj := PoolState.record_lt (hd.held (i := j) ht (by simp)).1
    refine .inl ?_
    rcases he with rfl | rfl <;> simp [step, ht, PoolState.record_setRecord_self hj]
  | download i ok =>
    simp only [PoolStep.spoils, Bool.and_eq_true, decide_eq_true_eq] at h
    obtain ⟨⟨rfl, hq⟩, hc⟩ := h
    rw [step, if_pos hq]
    refine .inr ?_
    simp [PoolState.record_setRecord_self (PoolState.record_lt (hd.queued hq).1),
      ReadStreamRec.release, hc]
  | _ => simp [PoolStep.spoils] at h

/-- A spoiled record that is not in use has no stream. -/
theorem PoolState.Disciplined.free_spoiled (hd : st.Disciplined) {j : Nat} (hs : st.Spoiled j)
    (hu : (st.record j).inUse = false) : (st.record j).readStreamRef = false := by
  rcases hs with hs | hs
  · cases hr : (st.record j).readStreamRef
    · rfl
    · have h₁ := hd.clean j hr
      have h₂ := hd.holders_eq j
      have h₃ := st.closers_le_holders j
      simp only [hs, hu, Bool.false_eq_true, false_or, if_false] at h₁ h₂
      omega
  · exact hs

end Spoiled

/-- **The slot pool's lease discipline**, over every interleaving of the steps of any number of
threads and of the download worker, with any outcome of each, from `m` records as `network_init`
leaves them:
* a record is in use exactly when one thread or one queued download holds it: it is released once
  for each lease, and never while another holds it;
* a step that acts on a record either leases it with `get_ReadStreamRec` while it is free and
  inside the table, or holds it alone;
* a step changes no record but the one it acts on (so a transaction closes or replaces only the
  stream of its own record);
* after a transaction on a record fails or is told `Connection: close`, the record never keeps a
  stream while not in use, until a later transaction attaches a new stream to it. -/
theorem slotPool_discipline (m k : Nat) (es : List PoolStep) (e : PoolStep)
    (post : List PoolStep) :
    let st := run (.initial m k) es
    (∀ j, st.holders j = if (st.record j).inUse then 1 else 0) ∧
      (∀ i, e.acts st = some i →
        if e.leases then (st.record i).inUse = false ∧ i < m
        else (st.record i).inUse = true ∧ st.holders i = 1) ∧
      (∀ j, (step st e).record j ≠ st.record j → e.acts st = some j) ∧
      (∀ j, e.spoils st j → attachesIn j (step st e) post = false →
        ((run (step st e) post).record j).inUse = false →
        ((run (step st e) post).record j).readStreamRef = false) := by
  intro st
  have hd : st.Disciplined := run_disciplined (initial_disciplined m k) es
  have hm : st.gReadStreams.length = m := by
    simp [st, run_length, PoolState.initial]
  refine ⟨hd.holders_eq, fun i h => hm ▸ hd.acts h, fun j => step_frame e, fun j hs ha => ?_⟩
  exact (run_disciplined (step_disciplined hd e) post).free_spoiled
    (run_spoiled post (hd.step_spoils hs) ha)

/-- A failed transaction on the only record: released, the record keeps no stream. -/
example :
    let st := run (.initial 1 1) [.begin 0 .streamTransaction, .opened 0 true]
    (PoolStep.finish 0 .failed).spoils st 0 = true ∧
      (run (step st (.finish 0 .failed)) [.release 0]).record 0 =
        ⟨false, false, false, false⟩ := by
  decide

/-! ## When a lease fails -/

/-- The records held, one entry per holder: each thread's in its transaction, then each queued
download's. -/
def PoolState.heldRecords (st : PoolState) : List Nat :=
  st.threads.filterMap Phase.held ++ st.downloads

/-- In a disciplined state a record in use is held by a thread or a queued download. -/
theorem PoolState.Disciplined.mem_heldRecords {st : PoolState} (hd : st.Disciplined) {j : Nat}
    (h : (st.record j).inUse = true) : j ∈ st.heldRecords := by
  have hpos : 0 < st.threads.countP (·.holds j) + st.downloads.count j := by
    have := hd.holders_eq j
    simp only [PoolState.holders, h, if_true] at this
    omega
  rcases Nat.eq_zero_or_pos (st.threads.countP (·.holds j)) with h0 | h0
  · exact List.mem_append_right _ (List.count_pos_iff.mp (by omega))
  · obtain ⟨ph, hph, hh⟩ := List.countP_pos_iff.mp h0
    exact List.mem_append_left _ (List.mem_filterMap.mpr ⟨ph, hph, by simpa [Phase.holds] using hh⟩)

/-- **A lease fails only when the table is full.** In every state reached from the table
`network_init` leaves, by any interleaving of transactions and background downloads,
`get_ReadStreamRec` returns `NULL`, and `open_stream_for_transaction` `EIO`, only when the
transactions holding a record and the queued downloads number at least the records of the table.
-/
theorem getReadStreamRec_none_full (m k : Nat) (es : List PoolStep) :
    let st := run (.initial m k) es
    getReadStreamRec st.gReadStreams = none → m ≤ st.heldRecords.length := by
  intro st hnone
  have hd : st.Disciplined := run_disciplined (initial_disciplined m k) es
  have hm : st.gReadStreams.length = m := by simp [st, run_length, PoolState.initial]
  have hsub : List.range m ⊆ st.heldRecords := fun j hj => by
    have hj : j < st.gReadStreams.length := hm ▸ List.mem_range.mp hj
    refine hd.mem_heldRecords (getReadStreamRec_eq_none.mp hnone _ ?_)
    simp [PoolState.record, hj, List.getElem_mem]
  simpa using (List.subperm_of_subset (List.nodup_range m) hsub).length_le

/-- A download handed to the request queue keeps the only record: the next lease fails. -/
theorem getReadStreamRec_none_full_handoff :
    let st := run (.initial 1 1)
      [.begin 0 .streamGetTransaction, .opened 0 true, .finish 0 (.handedOff false)]
    getReadStreamRec st.gReadStreams = none ∧ 1 ≤ st.heldRecords.length :=
  ⟨by decide, getReadStreamRec_none_full 1 1 _ (by decide)⟩

end WebDAVFS
