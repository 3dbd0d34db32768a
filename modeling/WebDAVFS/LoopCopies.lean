import WebDAVFS.Open

/-!
# The three copies of the transaction/authentication loop

`send_transaction`, `network_open` and `network_fsync` run the same loop over different
transactions (`sendTransactionLoop`, `networkOpenLoop`, `networkFsyncLoop`). What `AuthLoop`
proves of `authLoop` holds of each; here it is put together for all three.

- `retries_bounded`: in each copy, for every state of the SSL property bag that a history of
  `HandleSSLErrors` calls can produce, at most `1` plus the number of checked keys absent from it
  of the passes end in `EAGAIN`; every other pass that goes round answers a challenge.
- `requestURITooLong_busy`: in each copy, a final 414 is returned as `EBUSY`, not
  `ENAMETOOLONG`.
-/

namespace WebDAVFS

/-- **Bounded non-authentication retries.** For each of the three loops, started with any
connection state and with the property bag that any history of `HandleSSLErrors` calls left,
and run over any passes (other transactions' atomic `HandleSSLErrors` calls between them
included): at most `1 + absentKeys` of the passes end in `EAGAIN`, and a loop still going after
`k` passes has met at least `k - 1 - absentKeys` challenges. -/
theorem retries_bounded (c : SSLErrorCodes) (g : Bool) (frl : Nat)
    (history : List (SSLEnv × StreamError)) (retry : Bool) (conn : ConnectionState) (n : Node) :
    (∀ ps, (sendTransactionLoop c g ⟨retry, conn, sslRun c none history⟩ ps).RetriesWithin
        (·.response.statusCode) ps.length (1 + absentKeys (sslRun c none history))) ∧
      (∀ ps, (networkOpenLoop c frl g ⟨retry, conn, sslRun c none history⟩ n ps).RetriesWithin
        (·.1.statusCode) ps.length (1 + absentKeys (sslRun c none history))) ∧
      (∀ ps, (networkFsyncLoop c g ⟨retry, conn, sslRun c none history⟩ ps).RetriesWithin
        (·.statusCode) ps.length (1 + absentKeys (sslRun c none history))) := by
  have hs := (sslRun_extends (c := c) conforms_none history).2
  refine ⟨fun ps => ?_, fun ps => ?_, fun ps => ?_⟩
  · simpa [LoopVars.initial_budget] using authLoop_retriesWithin (sendTransactionPass_spending c g)
      (.initial ⟨retry, conn, _⟩ ()) hs ps
  · simpa [LoopVars.initial_budget] using authLoop_retriesWithin (networkOpenPass_spending c frl g)
      (.initial ⟨retry, conn, _⟩ n) hs ps
  · simpa [LoopVars.initial_budget] using authLoop_retriesWithin (networkFsyncPass_spending c g)
      (.initial ⟨retry, conn, _⟩ ()) hs ps

/-- A request answered 414 (Request-URI Too Long) after one pass: the spec maps 414 to
`ENAMETOOLONG`, but `translate_status_to_error` falls through to `EBUSY`, and each of the three
loops returns `EBUSY`. -/
theorem requestURITooLong_busy :
    let r414 : Response := ⟨414, false, none, none⟩
    let env : OpenEnv :=
      ⟨false, false, false, ⟨false, true, true, true, some 0, true⟩, true, 10, true⟩
    specStatusError 414 = ENAMETOOLONG ∧ translateStatusToError 414 = EBUSY ∧
      sendTransaction secureTransportCodes false ⟨true, .up, none⟩
          [⟨true, 0, 1, ⟨[], none⟩,
            ⟨.opened, ⟨[], [], none⟩, ⟨false, false⟩, fun _ => true, some r414⟩⟩] =
        some (EBUSY, none) ∧
      networkFsync secureTransportCodes false ⟨true, .up, none⟩
          [⟨true, 0, 1, ⟨[], none⟩,
            ⟨true, .opened, ⟨[], [], none⟩, ⟨false, false⟩, fun _ => true,
              some r414⟩⟩] =
        some (EBUSY, none, none) ∧
      (networkOpen secureTransportCodes 4096 false env ⟨true, .up, none⟩
          ⟨.never, false, [], false, -1, none, 0, [], 0, 0⟩
          [⟨true, 0, 1, ⟨[], none⟩, ⟨true, fun _ =>
            ⟨.opened, true, ⟨[], [], none⟩, ⟨false, false⟩, some r414,
              ⟨true, true, true, some 0, true, true⟩⟩⟩⟩]).map (·.error) =
        some EBUSY :=
  ⟨rfl, rfl, rfl, rfl, rfl⟩

end WebDAVFS
