import WebDAVFS.Basic

/-!
# `getmntopts` (getmntopts.c:76–155)

`getmntopts` applies a mount option string to two flag words through a table of
`struct mntopt` entries (mntopts.h, which is not under src/: `m_option`, `m_inverse`, `m_flag`,
`m_altloc`). It copies the string (`ENOMEM` when `malloc` fails), cuts it into fields with
`strtok(",")`, notes and strips a leading `no`, cuts each field at its first `=`, looks the name
up case-insensitively in the table, and sets or clears the entry's bits in `*flagp` or
`*altflagp`. A name with no entry is ignored when `getmnt_silent` is set and ends the call with
`EINVAL` otherwise. `strtok`, `strchr` and `strcasecmp` are modelled from the C standard, with
the C locale's case folding.

- `applyOpt_getLsbD`: one field sets or clears exactly the bits of its entry's `m_flag` in the
  word the entry targets.
- `getmntoptsLoop_getLsbD`: the loop is last-writer-wins per bit: a bit ends as the last field
  naming an entry that has the bit in that word says, and keeps its value when there is none.
- `getmntoptsLoop_einval`: without `getmnt_silent`, the loop fails exactly when a field names no
  entry.
- `getmntopts_last_writer`: the two together for `getmntopts` once the copy is allocated, in the
  words of `m_inverse` when it is 0 or 1; `getmntopts_copy_fails`: it returns `ENOMEM` when it is
  not.
- `getmntopts_einval_applies_earlier`: a rejection is not atomic: the words come back from an
  `EINVAL` changed by every field before the rejected one.
-/

namespace WebDAVFS

/-- `struct mntopt` (mntopts.h). -/
structure MntOpt where
  /-- `m_option`: the name. -/
  option : Bytes
  /-- `m_inverse`: the entry's bits are set when the field's `no` prefix is there exactly when
  this is 1. -/
  inverse : Int
  /-- `m_flag`: the bits the entry sets or clears. -/
  flag : BitVec 32
  /-- `m_altloc`: nonzero when the bits are in `*altflagp`, zero when in `*flagp`. -/
  altloc : Int

/-- The two words `getmntopts` updates: `*flagp` and `*altflagp`. -/
abbrev MntFlags := BitVec 32 × BitVec 32

/-- The word an entry with `m_altloc ≠ 0` (`alt`) or `m_altloc = 0` updates. -/
def MntFlags.word (flags : MntFlags) (alt : Bool) : BitVec 32 := if alt then flags.2 else flags.1

/-! ## The model -/

/-- `strtok(opt, ",")` called until it returns `NULL`: the maximal runs of bytes other than a
comma, in order; empty runs are skipped. -/
def strtokFields (s : Bytes) : List Bytes := (s.splitOn COMMA).filter (· ≠ [])

/-- `opt[0] == 'n' && opt[1] == 'o'`: whether the field starts with `no`, and the field after the
prefix. -/
def stripNo (opt : Bytes) : Bool × Bytes :=
  if opt.take 2 = [0x6e, 0x6f] then (true, opt.drop 2) else (false, opt)

/-- The field up to its first `=`, where `getmntopts` writes a NUL (`strchr(opt, '=')`). -/
def optionName (opt : Bytes) : Bytes := opt.takeWhile (· ≠ EQUALS)

/-- `tolower` in the C locale. -/
def toLowerByte (c : UInt8) : UInt8 := if 0x41 ≤ c ∧ c ≤ 0x5a then c + 0x20 else c

/-- `strcasecmp(a, b) == 0`. -/
def strcasecmpEq (a b : Bytes) : Bool := a.map toLowerByte == b.map toLowerByte

/-- The scan of the option table: the first entry whose name matches, case aside. -/
def lookupOpt (m0 : List MntOpt) (opt : Bytes) : Option MntOpt :=
  m0.find? fun m => strcasecmpEq opt m.option

/-- The entry a field names, with whether it carries the `no` prefix. -/
def fieldEntry (m0 : List MntOpt) (field : Bytes) : Option (Bool × MntOpt) :=
  (lookupOpt m0 (optionName (stripNo field).2)).map ((stripNo field).1, ·)

/-- The bit an entry leaves in the bits of its `m_flag`: set when `negative == m_inverse`. -/
def MntOpt.sets (m : MntOpt) (negative : Bool) : Bool := (if negative then 1 else 0) = m.inverse

/-- `*thisflagp |= m_flag` when `negative == m_inverse`, else `*thisflagp &= ~m_flag`, in the
word `m_altloc` picks. -/
def applyOpt (m : MntOpt) (negative : Bool) (flags : MntFlags) : MntFlags :=
  let update (w : BitVec 32) := if m.sets negative then w ||| m.flag else w &&& ~~~m.flag
  if m.altloc ≠ 0 then (flags.1, update flags.2) else (update flags.1, flags.2)

/-- The `strtok` loop of `getmntopts` over the fields left; the result and the two words. -/
def getmntoptsLoop (getmntSilent : Bool) (m0 : List MntOpt) :
    List Bytes → MntFlags → Nat × MntFlags
  | [], flags => (0, flags)
  | opt :: rest, flags =>
    match fieldEntry m0 opt with
    | some (negative, m) => getmntoptsLoop getmntSilent m0 rest (applyOpt m negative flags)
    | none => if getmntSilent then getmntoptsLoop getmntSilent m0 rest flags else (EINVAL, flags)

/-- `getmntopts` (getmntopts.c:76–155): the result and the final `*flagp` and `*altflagp`;
`mallocOk` says whether the copy of the option string is allocated. -/
def getmntopts (getmntSilent mallocOk : Bool) (options : Bytes) (m0 : List MntOpt)
    (flag altflag : BitVec 32) : Nat × MntFlags :=
  if mallocOk then getmntoptsLoop getmntSilent m0 (strtokFields options) (flag, altflag)
  else (ENOMEM, flag, altflag)

/-! ## One field -/

/-- Whether an entry updates bit `b` of the word `alt`. -/
def MntOpt.writes (m : MntOpt) (alt : Bool) (b : Nat) : Bool :=
  decide ((m.altloc ≠ 0) = alt) && m.flag.getLsbD b

/-- A field sets or clears exactly the bits of its entry's `m_flag`, in the word it targets. -/
theorem applyOpt_getLsbD (m : MntOpt) (negative : Bool) (flags : MntFlags) (alt : Bool)
    (b : Nat) :
    ((applyOpt m negative flags).word alt).getLsbD b =
      if m.writes alt b then m.sets negative else (flags.word alt).getLsbD b := by
  have hbit : ∀ w : BitVec 32, (if m.sets negative then w ||| m.flag else w &&& ~~~m.flag).getLsbD b =
      if m.flag.getLsbD b then m.sets negative else w.getLsbD b := by
    intro w
    by_cases hb : b < 32
    · cases hf : m.flag.getLsbD b <;> split <;> simp_all [BitVec.getLsbD_not]
    · simp [BitVec.getLsbD_ge, Nat.le_of_not_lt hb]
  by_cases ha : m.altloc = 0 <;> cases alt <;>
    simp [applyOpt, MntFlags.word, MntOpt.writes, ha, hbit]

/-! ## Last writer wins -/

/-- The fields that name a table entry, each with its `no` prefix and the entry. -/
def namedFields (m0 : List MntOpt) (fields : List Bytes) : List (Bool × MntOpt) :=
  fields.filterMap (fieldEntry m0)

/-- The last of the named fields whose entry has bit `b` in the word `alt`. -/
def lastWriter (named : List (Bool × MntOpt)) (alt : Bool) (b : Nat) : Option (Bool × MntOpt) :=
  (named.filter fun e => e.2.writes alt b).getLast?

theorem lastWriter_cons (e : Bool × MntOpt) (named : List (Bool × MntOpt)) (alt : Bool)
    (b : Nat) :
    lastWriter (e :: named) alt b =
      (lastWriter named alt b).or (if e.2.writes alt b then some e else none) := by
  unfold lastWriter
  rw [List.filter_cons]
  split
  · rw [List.getLast?_cons]
    cases (named.filter fun e => e.2.writes alt b).getLast? <;> rfl
  · cases (named.filter fun e => e.2.writes alt b).getLast? <;> rfl

/-- With `getmnt_silent` set the loop returns 0, and each bit ends as its last writer leaves
it, or as it was. -/
theorem getmntoptsLoop_getLsbD (m0 : List MntOpt) (alt : Bool) (b : Nat) :
    ∀ (fields : List Bytes) (flags : MntFlags),
      (getmntoptsLoop true m0 fields flags).1 = 0 ∧
      ((getmntoptsLoop true m0 fields flags).2.word alt).getLsbD b =
        match lastWriter (namedFields m0 fields) alt b with
        | some (negative, m) => m.sets negative
        | none => (flags.word alt).getLsbD b
  | [], _ => ⟨rfl, rfl⟩
  | f :: rest, flags => by
    cases hfe : fieldEntry m0 f with
    | none =>
      simpa [getmntoptsLoop, hfe, namedFields] using getmntoptsLoop_getLsbD m0 alt b rest flags
    | some e =>
      obtain ⟨negative, m⟩ := e
      obtain ⟨h0, hbit⟩ := getmntoptsLoop_getLsbD m0 alt b rest (applyOpt m negative flags)
      simp only [getmntoptsLoop, hfe]
      have hnamed : namedFields m0 (f :: rest) = (negative, m) :: namedFields m0 rest := by
        simp [namedFields, hfe]
      refine ⟨h0, ?_⟩
      rw [hbit, hnamed, lastWriter_cons, applyOpt_getLsbD]
      cases lastWriter (namedFields m0 rest) alt b with
      | some e => rfl
      | none => by_cases hw : m.writes alt b <;> simp [hw]

/-- `noro,RO=1` through a table whose `ro` sets bit 0: the first field clears the bit, the
second, read case-insensitively up to its `=`, sets it again. -/
example : getmntopts true true [0x6e, 0x6f, 0x72, 0x6f, COMMA, 0x52, 0x4f, EQUALS, 0x31]
    [⟨[0x72, 0x6f], 0, 1, 0⟩] 1 0 = (0, 1, 0) := by decide

/-- Without `getmnt_silent` the loop fails exactly when a field names no entry. -/
theorem getmntoptsLoop_einval (m0 : List MntOpt) :
    ∀ (fields : List Bytes) (flags : MntFlags),
      (getmntoptsLoop false m0 fields flags).1 = EINVAL ↔ ∃ f ∈ fields, fieldEntry m0 f = none
  | [], _ => by simp [getmntoptsLoop]
  | f :: rest, flags => by
    cases hfe : fieldEntry m0 f with
    | none => simp [getmntoptsLoop, hfe]
    | some e => simp [getmntoptsLoop, hfe, getmntoptsLoop_einval m0 rest]

/-- With `m_inverse` 0 or 1, an entry sets its bits exactly when the field's `no` prefix is
there and `m_inverse` is 1, or neither. -/
theorem MntOpt.sets_eq {m : MntOpt} (h : m.inverse = 0 ∨ m.inverse = 1) (negative : Bool) :
    m.sets negative = decide (negative = true ↔ m.inverse = 1) := by
  rcases h with h | h <;> cases negative <;> simp [MntOpt.sets, h]

theorem mem_of_lastWriter {m0 : List MntOpt} {fields : List Bytes} {alt : Bool} {b : Nat}
    {negative : Bool} {m : MntOpt} (h : lastWriter (namedFields m0 fields) alt b = some (negative, m)) :
    m ∈ m0 := by
  have hmem := List.mem_of_mem_filter (List.mem_of_getLast?_eq_some h)
  obtain ⟨f, -, hf⟩ := List.mem_filterMap.mp hmem
  obtain ⟨m', hm', hm⟩ := Option.map_eq_some'.mp hf
  cases hm
  exact List.mem_of_find?_eq_some hm'

/-- **`getmntopts` is last-writer-wins per flag bit.** Once the copy of the option string is
allocated, with `getmnt_silent` set and every `m_inverse` 0 or 1, `getmntopts` returns 0 and
leaves each bit of each word as the last field naming an entry with that bit in that word says:
set when its `no` prefix is there exactly when the entry's `m_inverse` is 1. A bit no field
writes keeps its value. With `getmnt_silent` clear it returns `EINVAL` exactly when a field names
no entry. -/
theorem getmntopts_last_writer (options : Bytes) (m0 : List MntOpt)
    (hinv : ∀ m ∈ m0, m.inverse = 0 ∨ m.inverse = 1) (flag altflag : BitVec 32) :
    (getmntopts true true options m0 flag altflag).1 = 0 ∧
    (∀ alt b, ((getmntopts true true options m0 flag altflag).2.word alt).getLsbD b =
      match lastWriter (namedFields m0 (strtokFields options)) alt b with
      | some (negative, m) => decide (negative = true ↔ m.inverse = 1)
      | none => (MntFlags.word (flag, altflag) alt).getLsbD b) ∧
    ((getmntopts false true options m0 flag altflag).1 = EINVAL ↔
      ∃ f ∈ strtokFields options, fieldEntry m0 f = none) := by
  simp only [getmntopts, if_true]
  refine ⟨(getmntoptsLoop_getLsbD m0 false 0 _ _).1, fun alt b => ?_,
    getmntoptsLoop_einval m0 _ _⟩
  rw [(getmntoptsLoop_getLsbD m0 alt b _ _).2]
  cases h : lastWriter (namedFields m0 (strtokFields options)) alt b with
  | none => rfl
  | some e => exact MntOpt.sets_eq (hinv e.2 (mem_of_lastWriter h)) e.1

/-- The field `RO` through a one-entry table for `ro`, whose `m_inverse` is 0. -/
theorem getmntopts_last_writer_ro :
    let m0 : List MntOpt := [⟨[0x72, 0x6f], 0, 1, 0⟩]
    (∀ m ∈ m0, m.inverse = 0 ∨ m.inverse = 1) ∧ (getmntopts true true [0x52, 0x4f] m0 0 0).1 = 0 :=
  ⟨by decide, (getmntopts_last_writer [0x52, 0x4f] _ (by decide) 0 0).1⟩

/-- When the copy of the option string is not allocated, `getmntopts` returns `ENOMEM`, not 0,
even with `getmnt_silent` set, and changes neither word. -/
theorem getmntopts_copy_fails :
    getmntopts true false [0x72, 0x6f] [⟨[0x72, 0x6f], 0, 1, 0⟩] 0 0 = (ENOMEM, 0, 0) := rfl

/-! ## A rejected option string -/

/-- Without `getmnt_silent`, the loop stops at the first field that names no entry, with the words
as the fields before it left them. -/
theorem getmntoptsLoop_reject (m0 : List MntOpt) {bad : Bytes} (hbad : fieldEntry m0 bad = none)
    (post : List Bytes) : ∀ (pre : List Bytes) (flags : MntFlags),
      (∀ f ∈ pre, fieldEntry m0 f ≠ none) →
      getmntoptsLoop false m0 (pre ++ bad :: post) flags =
        (EINVAL, (getmntoptsLoop true m0 pre flags).2)
  | [], _, _ => by simp [getmntoptsLoop, hbad]
  | f :: pre, flags, h => by
    obtain ⟨⟨negative, m⟩, he⟩ := Option.ne_none_iff_exists'.mp (h f (List.mem_cons_self _ _))
    simp only [List.cons_append, getmntoptsLoop, he]
    exact getmntoptsLoop_reject m0 hbad post pre _ fun g hg => h g (List.mem_cons_of_mem _ hg)

/-- **A rejected option string is applied up to the field it rejects.** Without
`getmnt_silent`, when the fields before `bad` all name table entries and `bad` names none,
`getmntopts` returns `EINVAL` with `*flagp` and `*altflagp` already changed as the fields before
`bad` change them, each bit as its last writer among them says; no field after `bad` is read. -/
theorem getmntopts_einval_applies_earlier (options : Bytes) (m0 : List MntOpt)
    (flag altflag : BitVec 32) {pre post : List Bytes} {bad : Bytes}
    (hsplit : strtokFields options = pre ++ bad :: post)
    (hpre : ∀ f ∈ pre, fieldEntry m0 f ≠ none) (hbad : fieldEntry m0 bad = none) :
    (getmntopts false true options m0 flag altflag).1 = EINVAL ∧
      ∀ alt b, ((getmntopts false true options m0 flag altflag).2.word alt).getLsbD b =
        match lastWriter (namedFields m0 pre) alt b with
        | some (negative, m) => m.sets negative
        | none => (MntFlags.word (flag, altflag) alt).getLsbD b := by
  rw [getmntopts, if_pos rfl, hsplit, getmntoptsLoop_reject m0 hbad post pre _ hpre]
  exact ⟨rfl, fun alt b => (getmntoptsLoop_getLsbD m0 alt b pre _).2⟩

/-- `ro,xx` through a table that has only `ro`, setting bit 0: `EINVAL`, with bit 0 set. -/
theorem getmntopts_einval_applies_earlier_ro :
    let m0 : List MntOpt := [⟨[0x72, 0x6f], 0, 1, 0⟩]
    strtokFields [0x72, 0x6f, COMMA, 0x78, 0x78] = [[0x72, 0x6f]] ++ [[0x78, 0x78]] ∧
      (∀ f ∈ [[0x72, 0x6f]], fieldEntry m0 f ≠ none) ∧ fieldEntry m0 [0x78, 0x78] = none ∧
      (getmntopts false true [0x72, 0x6f, COMMA, 0x78, 0x78] m0 0 0).1 = EINVAL :=
  have hro : ∀ f ∈ [[(0x72 : UInt8), 0x6f]], fieldEntry [⟨[0x72, 0x6f], 0, 1, 0⟩] f ≠ none := by
    simp only [List.mem_singleton, forall_eq]
    exact Option.ne_none_iff_isSome.mpr rfl
  ⟨rfl, hro, rfl, (@getmntopts_einval_applies_earlier [0x72, 0x6f, COMMA, 0x78, 0x78]
    [⟨[0x72, 0x6f], 0, 1, 0⟩] 0 0 [[0x72, 0x6f]] [] [0x78, 0x78] rfl hro rfl).1⟩

example : getmntopts false true [0x72, 0x6f, COMMA, 0x78, 0x78] [⟨[0x72, 0x6f], 0, 1, 0⟩] 0 0 =
    (EINVAL, 1, 0) := by decide

end WebDAVFS
