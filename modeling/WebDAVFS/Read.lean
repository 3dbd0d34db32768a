import WebDAVFS.AuthLoop

/-!
# `network_read` (webdav_network.c:3967–4022)

`network_read` sends a `GET` with `Range: bytes=offset-(offset+count-1)` through
`send_transaction` and returns the response body, cut to `count` bytes. It does not look at the
status: every 2xx passes `translate_status_to_error`, and a 200 carrying the whole entity, which
a server that ignores `Range` may send, is cut as if it were the range.

- `networkRead_returns_body`: what a successful `network_read` returns is the first `count`
  bytes of the last response's body, whatever its 2xx status.
- `networkRead_ignores_range`: for a 200 with the whole entity `[0, 1]`, a read of one byte at
  offset 1 returns `[0]`.
-/

namespace WebDAVFS

/-- The byte range `network_read` asks for: `bytes=offset-(offset+count-1)`. -/
def readRange (offset count : Nat) : Nat × Nat :=
  (offset, offset + count - 1)

/-- `network_read` (webdav_network.c:3967–4022), when the URL and the range string are created.
Each pass's world answers the `GET` for the range asked; the result is the error and the bytes
returned, cut to `count`. -/
def networkRead (c : SSLErrorCodes) (gSuppressAllUI : Bool) (s : NetState) (offset count : Nat)
    (ps : List (Pass (Nat × Nat → TransactionEvent))) : Option (Nat × Bytes) :=
  (sendTransaction c gSuppressAllUI s (ps.map (Pass.map (· (readRange offset count))))).map fun
    | (0, some reply) => (0, reply.buffer.take (min reply.count count))
    | (e, _) => (e, [])

/-- A successful `network_read` returns the first `count` bytes of the body of the loop's last
response, and that response has a 2xx status, whichever. -/
theorem networkRead_returns_body {c : SSLErrorCodes} {g : Bool} {s : NetState}
    {offset count : Nat} {ps : List (Pass (Nat × Nat → TransactionEvent))} {bytes : Bytes}
    (h : networkRead c g s offset count ps = some (0, bytes)) :
    ∃ reply,
      (sendTransactionLoop c g s
          (ps.map (Pass.map (· (readRange offset count))))).vars.responseRef =
        some reply ∧
      translateStatusToError reply.response.statusCode = 0 ∧
      bytes = reply.buffer.take (min reply.count count) := by
  unfold networkRead sendTransaction at h
  rw [Option.map_map] at h
  obtain ⟨o, ho, hf⟩ := Option.map_eq_some'.mp h
  obtain ⟨e, hexit, herr, -, hv⟩ := LoopRun.outcome_error id ho
  by_cases h0 : o.error = 0
  · have he : e = 0 := by
      by_contra he
      rw [if_neg he] at herr
      exact he (herr.symm.trans h0)
    subst he
    obtain ⟨reply, hresp, hstatus, -⟩ :=
      authLoop_exit_zero (sendTransactionPass_ne_zero c g) _ _ hexit
    rw [if_pos rfl, id] at herr
    refine ⟨reply, hresp, ?_, ?_⟩
    · rw [← h0, herr]
      exact congrArg _ hstatus.symm
    · simp only [Function.comp, h0, if_true, hv, sendTransactionLoop, hresp] at hf
      exact (Prod.mk.inj hf).2.symm
  · simp only [Function.comp, if_neg h0] at hf
    split at hf <;> simp_all

/-- A read of one byte at offset 1 of the entity `[0, 1]`, whose server ignores `Range` and
answers 200 with the whole entity: `network_read` returns `0` with `[0]`, not the requested
`[1]`. -/
theorem networkRead_ignores_range :
    let entity : Bytes := [0, 1]
    let ignoresRange : Nat × Nat → TransactionEvent := fun _ =>
      ⟨.opened, ⟨entity, [], none⟩, ⟨false, false⟩, fun _ => true,
        some ⟨200, false, none, none⟩⟩
    readRange 1 1 = (1, 1) ∧ (entity.drop 1).take 1 = [1] ∧
      networkRead secureTransportCodes false ⟨true, .up, none⟩ 1 1
        [⟨true, 0, 1, ⟨[], none⟩, ignoresRange⟩] = some (0, [0]) :=
  ⟨rfl, rfl, rfl⟩

end WebDAVFS
