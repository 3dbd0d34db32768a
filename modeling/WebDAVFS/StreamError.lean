import WebDAVFS.SSL

/-!
# Interpreting a failed stream operation

Four places react to a failed `CFReadStreamOpen` or `CFReadStreamRead`, each a hand-written copy
of the same logic:

- `open_stream_for_transaction`, on a failed open (webdav_network.c:1443–1469);
- `stream_transaction`, on a failed read (webdav_network.c:1987–2021);
- `stream_get_transaction`, on a failed read (webdav_network.c:1580–1602);
- `stream_transaction_from_file`, on a failed read (webdav_network.c:1825–1848).

Each is `interpretStreamError` at its own values: whether it asks `HandleSSLErrors` first, and
which of its answers it returns as they are; every other error goes through the EPIPE-once rule
(`retryOrDisconnect`). The failure semantics the spec gives (§4.G, §4.E) is
`specStreamFailure`.

- `streamTransactionError_eq_spec`: the `stream_transaction` copy meets the semantics.
- `streamError_copies_disagree`: the other three do not. The open path turns a declined
  certificate (`ECANCELED`) into `ENXIO` and marks the connection down; the two other read
  loops never consult `HandleSSLErrors`.
-/

namespace WebDAVFS

/-- What the error handling of one transaction reads and writes: its own `retryTransaction`
flag, the shared connection state, and the shared SSL property bag. -/
structure NetState where
  retryTransaction : Bool
  connection : ConnectionState
  ssl : SSLBag

/-- The EPIPE-once rule: the first POSIX `EPIPE` while `retryTransaction` is set clears it and
asks for a retry; anything else marks the connection down and fails with `ENXIO`. -/
def retryOrDisconnect (s : NetState) (e : StreamError) : Nat × NetState :=
  if s.retryTransaction && e.isEPIPE then (EAGAIN, { s with retryTransaction := false })
  else ( ENXIO, { s with connection := .down })

/-- The logic the four copies share: optionally ask `HandleSSLErrors`, return its answer when it
is one of `kept`, otherwise apply the EPIPE-once rule. -/
def interpretStreamError (c : SSLErrorCodes) (askSSL : Bool) (kept : List Nat) (s : NetState)
    (env : SSLEnv) (e : StreamError) : Nat × NetState :=
  if askSSL then
    let a := handleSSLErrors c s.ssl env e
    if a.result ∈ kept then (a.result, { s with ssl := a.bag })
    else retryOrDisconnect { s with ssl := a.bag } e
  else retryOrDisconnect s e

/-- `open_stream_for_transaction` after `CFReadStreamOpen` fails: only `EAGAIN` from
`HandleSSLErrors` is kept. -/
def openStreamForTransactionError (c : SSLErrorCodes) : NetState → SSLEnv → StreamError →
    Nat × NetState :=
  interpretStreamError c true [EAGAIN]

/-- `stream_transaction` after `CFReadStreamRead` fails: `EAGAIN` and `ECANCELED` are kept. -/
def streamTransactionError (c : SSLErrorCodes) : NetState → SSLEnv → StreamError →
    Nat × NetState :=
  interpretStreamError c true [EAGAIN, ECANCELED]

/-- `stream_get_transaction` after `CFReadStreamRead` fails: no SSL handling. -/
def streamGetTransactionError (c : SSLErrorCodes) : NetState → SSLEnv → StreamError →
    Nat × NetState :=
  interpretStreamError c false []

/-- `stream_transaction_from_file` after `CFReadStreamRead` fails: no SSL handling. -/
def streamTransactionFromFileError (c : SSLErrorCodes) : NetState → SSLEnv → StreamError →
    Nat × NetState :=
  interpretStreamError c false []

/-- The failure semantics of §4.G and §4.E, in the spec's words: an SSL-domain error goes
through `HandleSSLErrors`, whose `EAGAIN` and `ECANCELED` are returned as they are; otherwise
the EPIPE-once rule decides. -/
def specStreamFailure (c : SSLErrorCodes) (s : NetState) (env : SSLEnv) (e : StreamError) :
    Nat × NetState :=
  if e.domain = .ssl then
    let a := handleSSLErrors c s.ssl env e
    if a.result = EAGAIN ∨ a.result = ECANCELED then (a.result, { s with ssl := a.bag })
    else retryOrDisconnect { s with ssl := a.bag } e
  else retryOrDisconnect s e

theorem handleSSLErrors_not_ssl (c : SSLErrorCodes) (b : SSLBag) (env : SSLEnv)
    {e : StreamError} (h : e.domain ≠ .ssl) :
    handleSSLErrors c b env e = ⟨ EIO, b, none⟩ := by
  simp [handleSSLErrors, h]

/-- The `stream_transaction` copy is the specified failure semantics. -/
theorem streamTransactionError_eq_spec (c : SSLErrorCodes) (s : NetState) (env : SSLEnv)
    (e : StreamError) : streamTransactionError c s env e = specStreamFailure c s env e := by
  unfold streamTransactionError interpretStreamError specStreamFailure
  by_cases h : e.domain = .ssl
  · simp [h]
  · simp [h, handleSSLErrors_not_ssl c s.ssl env h]

/-- A declined expired certificate with the Security framework's codes, `retryTransaction` set
and the connection up: the specified outcome is `ECANCELED` with the connection still up, and
`stream_transaction`'s read loop gives it; a failed open gives `ENXIO` and marks the connection
down, and so do the read loops of `stream_get_transaction` and `stream_transaction_from_file`. -/
theorem streamError_copies_disagree :
    specStreamFailure secureTransportCodes ⟨true, .up, none⟩ ⟨true, false⟩
        ⟨.ssl, secureTransportCodes.errSSLCertExpired⟩ =
      streamTransactionError secureTransportCodes ⟨true, .up, none⟩ ⟨true, false⟩
        ⟨.ssl, secureTransportCodes.errSSLCertExpired⟩ ∧
    [specStreamFailure, openStreamForTransactionError, streamGetTransactionError,
        streamTransactionFromFileError].map (fun f =>
          let r := f secureTransportCodes ⟨true, .up, none⟩ ⟨true, false⟩
            ⟨.ssl, secureTransportCodes.errSSLCertExpired⟩
          (r.1, r.2.connection)) =
      [(ECANCELED, .up), ( ENXIO, .down), ( ENXIO, .down), ( ENXIO, .down)] :=
  ⟨(streamTransactionError_eq_spec _ _ _ _).symm, by decide⟩

/-- Every copy fails with a nonzero code. -/
theorem interpretStreamError_ne_zero (c : SSLErrorCodes) (askSSL : Bool) {kept : List Nat}
    (hk : 0 ∉ kept) (s : NetState) (env : SSLEnv) (e : StreamError) :
    (interpretStreamError c askSSL kept s env e).1 ≠ 0 := by
  have hr : ∀ s, (retryOrDisconnect s e).1 ≠ 0 := fun s => by
    unfold retryOrDisconnect
    split <;> simp
  unfold interpretStreamError
  split
  · dsimp only
    split
    · next h => exact fun h0 => hk (h0 ▸ h)
    · exact hr _
  · exact hr _

/-! ## Retry accounting -/

/-- The retries a transaction has left: the EPIPE retry while `retryTransaction` is set, and one
SSL retry per checked key absent from the bag. -/
def NetState.budget (s : NetState) : Nat :=
  (if s.retryTransaction then 1 else 0) + absentKeys s.ssl

/-- A step from `s` to `s'` answering `r` keeps the bag growing and conforming, never sets
`retryTransaction` again, and spends budget when it answers `EAGAIN`. -/
structure NetState.Spends (s s' : NetState) (r : Nat) : Prop where
  grows : s.ssl.Extends s'.ssl
  conforms : s'.ssl.Conforms
  keepsCleared : s'.retryTransaction → s.retryTransaction
  spends : r = EAGAIN → s'.budget < s.budget

theorem NetState.Spends.budget_le {s s' : NetState} {r : Nat} (h : s.Spends s' r) :
    s'.budget ≤ s.budget := by
  have := absentKeys_le h.grows
  unfold NetState.budget
  by_cases h' : s'.retryTransaction
  · simp only [h', h.keepsCleared h', if_true]
    omega
  · simp only [h', Bool.false_eq_true, if_false]
    omega

/-- A step that leaves the bag and `retryTransaction` alone and does not answer `EAGAIN`. -/
theorem NetState.Spends.quiet {s s' : NetState} (hs : s.ssl.Conforms) (hssl : s'.ssl = s.ssl)
    (hretry : s'.retryTransaction = s.retryTransaction) {r : Nat} (hr : r ≠ EAGAIN) :
    s.Spends s' r :=
  ⟨hssl ▸ .refl _, hssl ▸ hs, fun h => hretry ▸ h, fun h => absurd h hr⟩

theorem NetState.Spends.trans {s₁ s₂ s₃ : NetState} {r₁ r : Nat}
    (h₁ : s₁.Spends s₂ r₁) (h₂ : s₂.Spends s₃ r) : s₁.Spends s₃ r :=
  ⟨h₁.grows.trans h₂.grows, h₂.conforms, h₁.keepsCleared ∘ h₂.keepsCleared,
    fun h => by
      have := h₁.budget_le
      have := h₂.spends h
      omega⟩

theorem retryOrDisconnect_spends {s : NetState} (hs : s.ssl.Conforms) (e : StreamError) :
    s.Spends (retryOrDisconnect s e).2 (retryOrDisconnect s e).1 := by
  unfold retryOrDisconnect
  split
  · next h =>
    simp only [Bool.and_eq_true] at h
    exact ⟨.refl _, hs, fun h' => by simp at h', fun _ => by simp [NetState.budget, h.1]⟩
  · exact ⟨.refl _, hs, id, fun h => by simp at h⟩

/-- Every copy of the error logic spends budget on each `EAGAIN` it returns. -/
theorem interpretStreamError_spends (c : SSLErrorCodes) (askSSL : Bool) (kept : List Nat)
    {s : NetState} (hs : s.ssl.Conforms) (env : SSLEnv) (e : StreamError) :
    s.Spends (interpretStreamError c askSSL kept s env e).2
      (interpretStreamError c askSSL kept s env e).1 := by
  unfold interpretStreamError
  dsimp only
  split
  · have hx := handleSSLErrors_extends (c := c) hs env e
    have ha := handleSSLErrors_absentKeys (c := c) hs env e
    have h₁ : s.Spends { s with ssl := (handleSSLErrors c s.ssl env e).bag }
        (handleSSLErrors c s.ssl env e).result :=
      ⟨hx.1, hx.2, id, fun h => by simpa [NetState.budget] using ha.2 h⟩
    split
    · exact h₁
    · exact h₁.trans (retryOrDisconnect_spends hx.2 e)
  · exact retryOrDisconnect_spends hs e

end WebDAVFS
