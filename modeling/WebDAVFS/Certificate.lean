import WebDAVFS.Basic

/-!
# `ConfirmCertificate` (webdav_network.c:1122–1259)

`HandleSSLErrors` asks the user about a certificate by running a separate helper: the daemon
builds a property list (certificate chain, trust status, host name), opens a pipe and forks.
The parent writes the property list into the pipe and waits for the child; the child puts the
pipe's read end on its standard input and `execle`s `PRIVATE_CERT_UI_COMMAND`. A zero exit
status means *accept*.

After `fork` there are two processes running the same function, so the model returns the end
of each: the caller's, and the child's when one was forked (`confirmCertificate`).

- `confirmCertificate_accepts`: `TRUE` is returned only by the parent, and only after
  `wait4` reaped the forked pid with a normal exit of status `0`.
- `confirmCertificate_child_returns`: when `execle` (or `dup2`) fails in the child, the child's
  error path falls through the cleanup labels to `return (FALSE)`, so the forked copy of the
  daemon thread goes back into `HandleSSLErrors`.
-/

namespace WebDAVFS

/-- A status `wait4` stores: a normal exit with its code, or death by a signal. -/
inductive WaitStatus where
  | exited (code : Nat)
  | signaled (signal : Nat)
  deriving DecidableEq, Repr

/-- `WIFEXITED`. -/
def WaitStatus.exitedNormally : WaitStatus → Bool
  | .exited _ => true
  | .signaled _ => false

/-- `WEXITSTATUS`, read only after `WIFEXITED`. -/
def WaitStatus.exitStatus : WaitStatus → Nat
  | .exited code => code
  | .signaled _ => 0

/-- One answer of `wait4(pid, &status, 0, NULL)`: a reaped pid with its status, or `-1` with
`errno`. -/
inductive Wait4Result where
  | reaped (pid : Int) (status : WaitStatus)
  | failed (errno : Nat)
  deriving DecidableEq, Repr

/-- The parent's `wait4` loop (webdav_network.c:1193–1200): an `EINTR` failure is retried, any
other answer ends the loop; `none` while every answer so far was `EINTR`. -/
def waitForChild : List Wait4Result → Option Wait4Result
  | [] => none
  | .failed n :: rest => if n = EINTR then waitForChild rest else some (.failed n)
  | r :: _ => some r

/-- What the system calls answer during one `ConfirmCertificate`. -/
structure CertEnv where
  /-- The dictionary, the peer certificates and their data, the trust-status number, the host
  name and the XML data are all created. -/
  plistBuilt : Bool
  /-- `pipe` succeeds. -/
  pipeOk : Bool
  /-- The pid `fork` returns in the parent, or `none` when `fork` fails. -/
  childPid : Option Int
  /-- The byte count the parent's `write` of the property list returns. -/
  written : Int
  /-- `CFDataGetLength` of the property list. -/
  plistLength : Nat
  /-- The successive answers of `wait4`. -/
  waits : List Wait4Result
  /-- The pipe's read end already is `STDIN_FILENO`, so the child skips `dup2`. -/
  readEndIsStdin : Bool
  /-- `dup2` succeeds in the child. -/
  dup2Ok : Bool
  /-- `execle` of the helper succeeds in the child. -/
  execOk : Bool
  deriving DecidableEq, Repr

/-- How one process leaves `ConfirmCertificate`. -/
inductive ProcessEnd where
  /-- It returns `TRUE` (accept) or `FALSE` to its caller, `HandleSSLErrors`. -/
  | returns (accepted : Bool)
  /-- It became the helper through `execle`, which does not return. -/
  | execs
  /-- It is still blocked in `wait4`: every answer so far was `EINTR`. -/
  | waits
  deriving DecidableEq, Repr

/-- The parent's branch, `pid > 0` (webdav_network.c:1180–1210). -/
def confirmParent (env : CertEnv) (pid : Int) : ProcessEnd :=
  if env.written ≠ env.plistLength then .returns false
  else
    match waitForChild env.waits with
    | none => .waits
    | some (.reaped p status) =>
      .returns (p = pid && status.exitedNormally && status.exitStatus = 0)
    | some (.failed _) => .returns false

/-- The child's branch, `pid == 0` (webdav_network.c:1211–1224): a failed `dup2` or `execle`
jumps to the cleanup labels, which end in `return (FALSE)`. -/
def confirmChild (env : CertEnv) : ProcessEnd :=
  if !env.readEndIsStdin && !env.dup2Ok then .returns false
  else if env.execOk then .execs
  else .returns false

/-- `ConfirmCertificate`: the caller's end, and the forked child's end when there is one. -/
def confirmCertificate (env : CertEnv) : ProcessEnd × Option ProcessEnd :=
  if env.plistBuilt && env.pipeOk then
    match env.childPid with
    | some pid => (confirmParent env pid, some (confirmChild env))
    | none => (.returns false, none)
  else (.returns false, none)

theorem confirmChild_ne_true (env : CertEnv) : confirmChild env ≠ .returns true := by
  unfold confirmChild
  split
  · simp
  · split <;> simp

/-- **The prompt fails closed.** Only the parent returns `TRUE`, and only after `wait4` reaped the
forked pid from a normal exit with status `0`; the child never returns `TRUE`. -/
theorem confirmCertificate_accepts (env : CertEnv) :
    ((confirmCertificate env).1 = .returns true →
      ∃ pid, env.childPid = some pid ∧
        waitForChild env.waits = some (.reaped pid (.exited 0))) ∧
      (confirmCertificate env).2 ≠ some (.returns true) := by
  unfold confirmCertificate
  split
  · split
    · next pid hpid =>
      refine ⟨fun h => ⟨pid, hpid, ?_⟩, by simpa using confirmChild_ne_true env⟩
      unfold confirmParent at h
      split at h
      · cases h
      · split at h
        · cases h
        · next p st hw =>
          cases st with
          | exited code =>
            simp [WaitStatus.exitedNormally, WaitStatus.exitStatus] at h
            rw [hw, h.1, h.2]
          | signaled _ => simp [WaitStatus.exitedNormally] at h
        · cases h
    · exact ⟨by simp, by simp⟩
  · exact ⟨by simp, by simp⟩

/-- When `execle` fails after a successful `fork`, the child returns `FALSE` from
`ConfirmCertificate`. -/
theorem confirmChild_exec_failure {env : CertEnv} (h : env.execOk = false) :
    confirmChild env = .returns false := by
  unfold confirmChild
  split
  · rfl
  · simp [h]

/-- The helper binary cannot be executed: after a successful fork (child pid `100`) the child
comes back out of `ConfirmCertificate` with `FALSE` instead of becoming the helper or exiting. -/
theorem confirmCertificate_child_returns :
    (confirmCertificate
      { plistBuilt := true, pipeOk := true, childPid := some 100, written := 512,
        plistLength := 512, waits := [.reaped 100 (.exited 255)], readEndIsStdin := false,
        dup2Ok := true, execOk := false }).2 = some (.returns false) := by
  simp [confirmCertificate, confirmChild_exec_failure]

end WebDAVFS
