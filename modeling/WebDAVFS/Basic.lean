import Mathlib.Tactic.Common
import Mathlib.Tactic.NormNum
import Mathlib.Tactic.IntervalCases
import Mathlib.Data.List.Basic

/-!
# Shared vocabulary of the network subsystem

`webdav_network.c` talks to three outside parties whose values the rest of the model reads:

- the C library, through `errno` codes (`EIO`, `EAGAIN`, …) returned as `int` results, where
  `0` is success;
- CFNetwork, through `CFStreamError` records (a domain and a code) and HTTP responses;
- the daemon's connection-state switch (`get_connectionstate` / `set_connectionstate`).

The `errno` codes are Darwin's `<sys/errno.h>` values. The code only compares them with each
other, so any assignment of distinct values would do; the real ones keep fixed inputs readable.
-/

namespace WebDAVFS

/-- The bytes of a response body, a buffer or a cache file. -/
abbrev Bytes := List UInt8

/-! ## `errno` codes -/

abbrev EPERM : Nat := 1
abbrev ENOENT : Nat := 2
abbrev EINTR : Nat := 4
abbrev EIO : Nat := 5
abbrev ENXIO : Nat := 6
abbrev ENOMEM : Nat := 12
abbrev EACCES : Nat := 13
abbrev EBUSY : Nat := 16
abbrev ENODEV : Nat := 19
abbrev EINVAL : Nat := 22
abbrev ENOSPC : Nat := 28
abbrev EPIPE : Nat := 32
abbrev EAGAIN : Nat := 35
abbrev ENAMETOOLONG : Nat := 63
abbrev ENOTEMPTY : Nat := 66
abbrev EAUTH : Nat := 80
abbrev ECANCELED : Nat := 89

/-! ## Bytes the parsers compare with -/

@[simp] abbrev HT : UInt8 := 0x09
@[simp] abbrev LF : UInt8 := 0x0a
@[simp] abbrev CR : UInt8 := 0x0d
@[simp] abbrev SP : UInt8 := 0x20
@[simp] abbrev LT : UInt8 := 0x3c
@[simp] abbrev GT : UInt8 := 0x3e
@[simp] abbrev COMMA : UInt8 := 0x2c
@[simp] abbrev EQUALS : UInt8 := 0x3d
@[simp] abbrev HASH : UInt8 := 0x23
@[simp] abbrev PERCENT : UInt8 := 0x25
@[simp] abbrev DOT : UInt8 := 0x2e
@[simp] abbrev SLASH : UInt8 := 0x2f
@[simp] abbrev COLON : UInt8 := 0x3a
@[simp] abbrev SEMICOLON : UInt8 := 0x3b
@[simp] abbrev QUESTION : UInt8 := 0x3f

/-! ## CFNetwork stream errors -/

/-- `CFStreamError.domain`: the two domains the daemon tests, and every other one. -/
inductive ErrorDomain where
  | posix
  | ssl
  | other (domain : Int)
  deriving DecidableEq, Repr

/-- `CFStreamError`, as `CFReadStreamGetError` reports it. -/
structure StreamError where
  domain : ErrorDomain
  error : Int
  deriving DecidableEq, Repr

/-- The stream error a broken persistent connection surfaces: POSIX `EPIPE`. -/
def StreamError.isEPIPE (e : StreamError) : Bool :=
  e.domain = .posix && e.error = EPIPE

/-- `WEBDAV_CONNECTION_UP` / `WEBDAV_CONNECTION_DOWN`. -/
inductive ConnectionState where
  | up
  | down
  deriving DecidableEq, Repr

end WebDAVFS
