import WebDAVFS.StreamError

/-!
# `stream_transaction`'s growable body buffer (webdav_network.c:1961–2005)

`stream_transaction` reads the response body into a buffer that starts at `BODY_BUFFER_SIZE`
bytes. Each read asks for all the space left; whenever a read leaves less than half a step free,
the buffer grows by one step through `realloc`. A read of `0` bytes means end of stream.

The stream is modelled by the bytes it still has to deliver, the sizes the transport cuts
successive reads to, and how it ends (`BodyStream`); `readBody` is the loop, with an explicit
fuel bound, and records every read it issues.

- `Spacious`: the free space stays between half a step and a step and a half
  (`spacious_next`), so every read asks for at least `BODY_BUFFER_SIZE / 2` bytes and ends
  exactly at the allocated size (`readBody_reads`).
- `readBody_delivered`: a loop that reaches end of stream holds exactly the delivered bytes.
- `readBody_terminates`: with more fuel than bytes the loop ends at the stream's end, at its
  error, or at a failed `realloc`, and only there.
-/

namespace WebDAVFS

/-- `BODY_BUFFER_SIZE` (webdav_network.c:49): the first size of the buffer and its growth step. -/
def BODY_BUFFER_SIZE : Nat := 0x10000

/-- The largest `CFIndex`. -/
def CFIndexMax : Nat := 2 ^ 63 - 1

/-- A response body as the read stream delivers it: the bytes still to come, the sizes the
transport cuts successive reads to, and how the stream ends after the last byte (`none`: end of
stream; `some e`: the read fails with `e`). -/
structure BodyStream where
  pending : Bytes
  cuts : List Nat
  ending : Option StreamError
  deriving DecidableEq, Repr

/-- `CFReadStreamRead(stream, buffer, n)`: the next bytes, at most `n` of them, `ok []` at end of
stream, or the error the stream ends with. -/
def BodyStream.read (s : BodyStream) (n : Nat) : Except StreamError Bytes × BodyStream :=
  match s.pending, s.ending with
  | [], none => (.ok [], s)
  | [], some e => (.error e, s)
  | p, _ =>
    let k := min n (s.cuts.headD n)
    (.ok (p.take k), { s with pending := p.drop k, cuts := s.cuts.tail })

/-- One issued `CFReadStreamRead`: the bytes already in the buffer, the length asked for, and the
buffer's allocated size. -/
structure ReadRequest where
  totalRead : Nat
  bytesToRead : Nat
  bufferSize : Nat

/-- The buffer: its allocated size and the bytes read into it so far (`totalRead` of them). -/
structure BodyBuffer where
  bufferSize : Nat
  contents : Bytes

/-- How the read loop ends. -/
inductive BodyEnd where
  | atEnd
  | readFailed (e : StreamError)
  | reallocFailed
  | outOfFuel

/-- A run of the read loop: how it ended, the buffer it left, and the reads it issued. -/
structure BodyRun where
  ending : BodyEnd
  buffer : BodyBuffer
  reads : List ReadRequest

/-- The read loop of `stream_transaction` (webdav_network.c:1974–2024); `alloc n` says whether
`realloc` to `n` bytes succeeds. -/
def readBody (alloc : Nat → Bool) : Nat → BodyBuffer → BodyStream → BodyRun
  | 0, b, _ => ⟨.outOfFuel, b, []⟩
  | fuel + 1, b, s =>
    let bytesToRead := b.bufferSize - b.contents.length
    let req : ReadRequest := ⟨b.contents.length, bytesToRead, b.bufferSize⟩
    match s.read bytesToRead with
    | (.error e, _) => ⟨.readFailed e, b, [req]⟩
    | (.ok [], _) => ⟨.atEnd, b, [req]⟩
    | (.ok chunk, s') =>
      let b' : BodyBuffer := { b with contents := b.contents ++ chunk }
      if bytesToRead - chunk.length < BODY_BUFFER_SIZE / 2 then
        let b'' : BodyBuffer := { b' with bufferSize := b.bufferSize + BODY_BUFFER_SIZE }
        if alloc b''.bufferSize then
          let run := readBody alloc fuel b'' s'
          { run with reads := req :: run.reads }
        else ⟨.reallocFailed, b'', [req]⟩
      else
        let run := readBody alloc fuel b' s'
        { run with reads := req :: run.reads }

/-! ## One turn of the loop -/

theorem BodyStream.read_of_ne_nil {s : BodyStream} (h : s.pending ≠ []) (n : Nat) :
    s.read n = (.ok (s.pending.take (min n (s.cuts.headD n))),
      { s with pending := s.pending.drop (min n (s.cuts.headD n)), cuts := s.cuts.tail }) := by
  unfold BodyStream.read
  split <;> simp_all

/-- A read delivers the stream's next bytes: what it returns, then what is left, is what there
was; the stream still ends the same way and its cuts are among the old ones. -/
theorem BodyStream.read_ok {s s' : BodyStream} {n : Nat} {chunk : Bytes}
    (h : s.read n = (.ok chunk, s')) :
    chunk ++ s'.pending = s.pending ∧ s'.ending = s.ending ∧ ∀ k ∈ s'.cuts, k ∈ s.cuts := by
  unfold BodyStream.read at h
  split at h
  · next hp _ => simp_all
  · cases h
  · next hp _ =>
    simp only [Prod.mk.injEq, Except.ok.injEq] at h
    obtain ⟨rfl, rfl⟩ := h
    exact ⟨by simp [hp], rfl, fun k hk => List.mem_of_mem_tail hk⟩

/-- A read of a positive length, on a stream with bytes left whose cuts are positive, returns
some of them. -/
theorem BodyStream.read_ne_nil {s : BodyStream} (h : s.pending ≠ []) {n : Nat} (hn : 0 < n)
    (hc : ∀ k ∈ s.cuts, 0 < k) : (s.read n).1 ≠ .ok [] := by
  have hk : 0 < min n (s.cuts.headD n) := by
    cases hcs : s.cuts with
    | nil => simpa using hn
    | cons k ks => simpa using ⟨hn, hc k (by simp [hcs])⟩
  rw [BodyStream.read_of_ne_nil h]
  simpa [List.take_eq_nil_iff, h] using hk.ne'

/-- The free space after the bytes read so far lies between half a step and a step and a half. -/
def BodyBuffer.Spacious (b : BodyBuffer) : Prop :=
  b.contents.length + BODY_BUFFER_SIZE / 2 ≤ b.bufferSize ∧
    b.bufferSize ≤ b.contents.length + BODY_BUFFER_SIZE + BODY_BUFFER_SIZE / 2

/-- The buffer the loop goes on with after appending `chunk`, grown when little space is left. -/
def BodyBuffer.next (b : BodyBuffer) (chunk : Bytes) : BodyBuffer :=
  if b.bufferSize - b.contents.length - chunk.length < BODY_BUFFER_SIZE / 2 then
    ⟨b.bufferSize + BODY_BUFFER_SIZE, b.contents ++ chunk⟩
  else ⟨b.bufferSize, b.contents ++ chunk⟩

@[simp] theorem BodyBuffer.next_contents (b : BodyBuffer) (chunk : Bytes) :
    (b.next chunk).contents = b.contents ++ chunk := by
  unfold BodyBuffer.next
  split <;> rfl

/-- The read a buffer issues next: all of its free space. -/
def BodyBuffer.request (b : BodyBuffer) : ReadRequest :=
  ⟨b.contents.length, b.bufferSize - b.contents.length, b.bufferSize⟩

theorem spacious_initial : BodyBuffer.Spacious ⟨BODY_BUFFER_SIZE, []⟩ := by
  simp [BodyBuffer.Spacious, BODY_BUFFER_SIZE]

theorem spacious_next {b : BodyBuffer} (hb : b.Spacious) {chunk : Bytes}
    (hc : chunk.length ≤ b.bufferSize - b.contents.length) : (b.next chunk).Spacious := by
  unfold BodyBuffer.next BodyBuffer.Spacious at *
  simp only [BODY_BUFFER_SIZE] at *
  split <;> simp only [List.length_append] <;> omega

/-- A spacious buffer issues a read of at least half a step that ends at its allocated size. -/
theorem spacious_request {b : BodyBuffer} (hb : b.Spacious) :
    BODY_BUFFER_SIZE / 2 ≤ b.request.bytesToRead ∧
      b.request.totalRead + b.request.bytesToRead = b.request.bufferSize ∧
      b.request.bufferSize ≤ b.request.totalRead + BODY_BUFFER_SIZE + BODY_BUFFER_SIZE / 2 := by
  unfold BodyBuffer.Spacious at hb
  simp only [BodyBuffer.request]
  omega

theorem readBody_chunk (alloc : Nat → Bool) (fuel : Nat) {b : BodyBuffer} {s s' : BodyStream}
    {chunk : Bytes} (hne : chunk ≠ [])
    (hr : s.read (b.bufferSize - b.contents.length) = (.ok chunk, s')) :
    (readBody alloc (fuel + 1) b s = ⟨.reallocFailed, b.next chunk, [b.request]⟩ ∧
        alloc (b.next chunk).bufferSize = false) ∨
      readBody alloc (fuel + 1) b s =
        { readBody alloc fuel (b.next chunk) s' with
          reads := b.request :: (readBody alloc fuel (b.next chunk) s').reads } := by
  obtain ⟨x, xs, rfl⟩ := List.exists_cons_of_ne_nil hne
  simp only [readBody, hr, BodyBuffer.next, BodyBuffer.request]
  split
  · split <;> simp_all
  · simp

/-- What one turn of the loop does on a spacious buffer, when the transport never cuts a read to
zero bytes: stop at the end or the error of the stream, or take a nonempty chunk that fits and
either fail to grow the buffer or go on. -/
theorem readBody_step (alloc : Nat → Bool) (fuel : Nat) {b : BodyBuffer} {s : BodyStream}
    (hb : b.Spacious) (hc : ∀ k ∈ s.cuts, 0 < k) :
    (s.pending = [] ∧ s.ending = none ∧
        readBody alloc (fuel + 1) b s = ⟨.atEnd, b, [b.request]⟩) ∨
      (∃ e, s.pending = [] ∧ s.ending = some e ∧
        readBody alloc (fuel + 1) b s = ⟨.readFailed e, b, [b.request]⟩) ∨
      (∃ chunk rest, s.pending = chunk ++ rest ∧ chunk ≠ [] ∧
        chunk.length ≤ b.bufferSize - b.contents.length ∧
        ((readBody alloc (fuel + 1) b s = ⟨.reallocFailed, b.next chunk, [b.request]⟩ ∧
            alloc (b.next chunk).bufferSize = false) ∨
          readBody alloc (fuel + 1) b s =
            { readBody alloc fuel (b.next chunk) ⟨rest, s.cuts.tail, s.ending⟩ with
              reads := b.request :: (readBody alloc fuel (b.next chunk)
                ⟨rest, s.cuts.tail, s.ending⟩).reads })) := by
  rcases s with ⟨pending, cuts, ending⟩
  cases pending with
  | nil =>
    cases ending with
    | none => exact .inl ⟨rfl, rfl, rfl⟩
    | some e => exact .inr (.inl ⟨e, rfl, rfl, rfl⟩)
  | cons x xs =>
    have hn : 0 < b.bufferSize - b.contents.length := by
      have := (spacious_request hb).1
      simp only [BodyBuffer.request, BODY_BUFFER_SIZE] at this
      omega
    have hk : 0 < min (b.bufferSize - b.contents.length)
        (cuts.headD (b.bufferSize - b.contents.length)) := by
      cases cuts with
      | nil => simpa using hn
      | cons k ks => simpa [hn] using hc k (List.mem_cons_self _ _)
    set k := min (b.bufferSize - b.contents.length) (cuts.headD (b.bufferSize - b.contents.length))
    have hne : (x :: xs).take k ≠ [] := by
      obtain ⟨k', hk'⟩ := Nat.exists_eq_succ_of_ne_zero hk.ne'
      simp [hk']
    refine .inr (.inr ⟨(x :: xs).take k, (x :: xs).drop k, (List.take_append_drop _ _).symm, hne,
      (List.length_take_le _ _).trans (min_le_left _ _), ?_⟩)
    exact readBody_chunk alloc fuel hne (BodyStream.read_of_ne_nil (List.cons_ne_nil _ _) _)

/-! ## Whole runs -/

section Runs

variable {alloc : Nat → Bool}

/-- **Every read fits.** Each read a run issues asks for at least half a step and ends exactly at
the allocated size, which stays within a step and a half of the bytes read. -/
theorem readBody_reads : ∀ {fuel : Nat} {b : BodyBuffer} {s : BodyStream}, b.Spacious →
    (∀ k ∈ s.cuts, 0 < k) → ∀ q ∈ (readBody alloc fuel b s).reads,
      BODY_BUFFER_SIZE / 2 ≤ q.bytesToRead ∧ q.totalRead + q.bytesToRead = q.bufferSize ∧
      q.bufferSize ≤ q.totalRead + BODY_BUFFER_SIZE + BODY_BUFFER_SIZE / 2 ∧
      q.totalRead ≤ b.contents.length + s.pending.length
  | 0, _, _, _, _ => by simp [readBody]
  | fuel + 1, b, s, hb, hc => by
    have hreq : ∀ q ∈ [b.request], BODY_BUFFER_SIZE / 2 ≤ q.bytesToRead ∧
        q.totalRead + q.bytesToRead = q.bufferSize ∧
        q.bufferSize ≤ q.totalRead + BODY_BUFFER_SIZE + BODY_BUFFER_SIZE / 2 ∧
        q.totalRead ≤ b.contents.length + s.pending.length := by
      simp only [List.mem_singleton, forall_eq]
      exact ⟨(spacious_request hb).1, (spacious_request hb).2.1, (spacious_request hb).2.2,
        by simp [BodyBuffer.request]⟩
    rcases readBody_step alloc fuel hb hc with
      ⟨-, -, h⟩ | ⟨e, -, -, h⟩ | ⟨chunk, rest, hs, -, hfit, h⟩
    · rw [h]; exact hreq
    · rw [h]; exact hreq
    rcases h with ⟨h, -⟩ | h
    · rw [h]; exact hreq
    rw [h]
    intro q hq
    rcases List.mem_cons.mp hq with rfl | hq
    · exact hreq _ (List.mem_singleton_self _)
    have ih := readBody_reads (spacious_next hb hfit)
      (fun k hk => hc k (List.mem_of_mem_tail hk)) q hq
    simp only [BodyBuffer.next_contents, List.length_append, hs] at ih ⊢
    omega

/-- A run that stops at the end or the error of the stream has appended every delivered byte. -/
theorem readBody_delivered : ∀ {fuel : Nat} {b : BodyBuffer} {s : BodyStream}, b.Spacious →
    (∀ k ∈ s.cuts, 0 < k) →
    ((readBody alloc fuel b s).ending = .atEnd →
      (readBody alloc fuel b s).buffer.contents = b.contents ++ s.pending ∧ s.ending = none) ∧
    (∀ e, (readBody alloc fuel b s).ending = .readFailed e → s.ending = some e)
  | 0, _, _, _, _ => by simp [readBody]
  | fuel + 1, b, s, hb, hc => by
    rcases readBody_step alloc fuel hb hc with
      ⟨hp, he, h⟩ | ⟨e, hp, he, h⟩ | ⟨chunk, rest, hs, -, hfit, h⟩
    · simp [h, hp, he]
    · simp [h, hp, he]
    rcases h with ⟨h, -⟩ | h
    · simp [h]
    rw [h]
    have ih := @readBody_delivered fuel _ ⟨rest, s.cuts.tail, s.ending⟩
      (spacious_next hb hfit) (fun k hk => hc k (List.mem_of_mem_tail hk))
    exact ⟨fun he => by simpa [hs] using ih.1 he, ih.2⟩

/-- With more fuel than bytes to come, the loop stops at the stream's end or error, or at a
failed `realloc`. -/
theorem readBody_terminates : ∀ {fuel : Nat} {b : BodyBuffer} {s : BodyStream}, b.Spacious →
    (∀ k ∈ s.cuts, 0 < k) → s.pending.length < fuel →
    (readBody alloc fuel b s).ending ≠ .outOfFuel ∧
      ((readBody alloc fuel b s).ending = .reallocFailed → ∃ n, alloc n = false)
  | 0, _, _, _, _, h => absurd h (Nat.not_lt_zero _)
  | fuel + 1, b, s, hb, hc, hf => by
    rcases readBody_step alloc fuel hb hc with
      ⟨-, -, h⟩ | ⟨e, -, -, h⟩ | ⟨chunk, rest, hs, hne, hfit, h⟩
    · simp [h]
    · simp [h]
    rcases h with ⟨h, ha⟩ | h
    · simp only [h, ne_eq, reduceCtorEq, not_false_eq_true, forall_const, true_and]
      exact ⟨_, ha⟩
    rw [h]
    have hlen : rest.length < fuel := by
      have := List.length_pos_of_ne_nil hne
      simp only [hs, List.length_append] at hf
      omega
    exact readBody_terminates (spacious_next hb hfit) (fun k hk => hc k (List.mem_of_mem_tail hk))
      hlen

end Runs

end WebDAVFS
