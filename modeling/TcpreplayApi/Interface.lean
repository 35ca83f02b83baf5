import TcpreplayApi.Setters

/-! `tcpreplay_set_interface`, with its link-type statics shared by the whole process, and
`tcpreplay_post_args`, which opens the interfaces itself. -/
namespace TcpreplayApi

/-- The statics `int1dlt` and `int2dlt` of `tcpreplay_set_interface`, one pair per process. -/
structure DltStatics where
  int1dlt : Int := -1
  int2dlt : Int := -1
  deriving DecidableEq, Repr

/-- What `get_interface` and `sendpacket_open` answered for one interface: the resolved name, then
the handle or the text left in `ebuf`. -/
structure OpenAnswer where
  intname : Option String
  opened : Except String Sendpacket

/-- The closing test of `tcpreplay_set_interface`, on the statics rather than the handles. -/
def dltCheck (st : DltStatics) (ctx : Tcpreplay) : Int × DltStatics × Tcpreplay :=
  if st.int1dlt ≠ -1 ∧ st.int2dlt ≠ -1 ∧ st.int1dlt ≠ st.int2dlt then
    (-1, st, tcpreplaySeterr ctx "tcpreplay_set_interface" 421
      (.dltMismatch ctx.options.intf1Name st.int1dlt ctx.options.intf2Name st.int2dlt))
  else (0, st, ctx)

/-- `tcpreplay_set_interface`. The name and the handle are stored before the link types are
compared. -/
def tcpreplaySetInterface (st : DltStatics) (ctx : Tcpreplay) (intf : TcpreplayIntf)
    (value : String) (a : OpenAnswer) : Int × DltStatics × Tcpreplay :=
  let func := "tcpreplay_set_interface"
  match intf, a.intname with
  | .intf1, none => (-1, st, tcpreplaySeterr ctx func 386 (.invalidInterface (some value)))
  | .intf1, some intname =>
    let ctx := { ctx with options := { ctx.options with intf1Name := some intname } }
    match a.opened with
    | .error ebuf =>
      (-1, st, tcpreplaySeterr { ctx with intf1 := none } func 394 (.cantOpen (some intname) ebuf))
    | .ok sp => dltCheck { st with int1dlt := sp.dlt } { ctx with intf1 := some sp }
  | .intf2, none =>
    (-1, st, tcpreplaySeterr ctx func 401 (.invalidInterface ctx.options.intf2Name))
  | .intf2, some intname =>
    let ctx := { ctx with options := { ctx.options with intf2Name := some intname } }
    match a.opened with
    | .error ebuf =>
      (-1, st, tcpreplaySeterr { ctx with intf2 := none } func 409 (.cantOpen (some intname) ebuf))
    | .ok sp => dltCheck { st with int2dlt := sp.dlt } { ctx with intf2 := some sp }

/-- The AutoOpts values `tcpreplay_post_args` reads, `none` or `false` where `HAVE_OPT` is false. -/
structure AutoOpts where
  dbug : Bool
  loop : UInt32
  sleepAccel : Int
  limit : Option Int
  topspeed : Bool
  pps : Option (Int × Int)
  oneatatime : Bool
  mbps : Option ℚ
  multiplier : Option ℚ
  enableFileCache : Bool
  timer : Option String
  pktlen : Bool
  intf1 : String
  intf2 : Option String
  cachefile : Option String

structure PostArgsAnswers where
  mpLibraryIsLoaded : Bool
  intf1 : OpenAnswer
  intf2 : OpenAnswer
  readCache : ReadCache

/-- The first of `--topspeed`, `--pps`, `--oneatatime`, `--mbps`, `--multiplier` given. -/
def postArgsSpeed (o : AutoOpts) (s : TcpreplaySpeed) : TcpreplaySpeed :=
  if o.topspeed then { s with mode := .speedTopspeed, speed := 0 }
  else match o.pps with
  | some (pps, multi) => { s with mode := .speedPacketrate, speed := pps, ppsMulti := multi }
  | none =>
    if o.oneatatime then { s with mode := .speedOneatatime, speed := 0 }
    else match o.mbps, o.multiplier with
    | some r, _ => { s with mode := .speedMbpsrate, speed := r }
    | none, some r => { s with mode := .speedMultiplier, speed := r }
    | none, none => s

/-- The options `tcpreplay_post_args` sets before it looks at `--timer`. -/
def postArgsOptions (o : AutoOpts) (opt : TcpreplayOpt) : TcpreplayOpt :=
  { opt with
    loop := o.loop
    sleepAccel := o.sleepAccel
    limitSend := o.limit.getD opt.limitSend
    speed := postArgsSpeed o opt.speed
    enableFileCache := if o.enableFileCache ∧ o.loop ≠ 1 then true else opt.enableFileCache }

/-- The timer `--timer` names: the method stored, if any, and the line and error of the `return -1`,
if any. -/
def postArgsTimer (B : Build) (mpLoaded : Bool) (arg : String) :
    Option TcpreplayAccurate × Option (Nat × TcpreplayErr) :=
  if arg = "select" then
    if B.haveSelect then (some .accurateSelect, none) else (none, some (214, .noSelect))
  else if arg = "rdtsc" then
    if B.haveRdtsc then (some .accurateRdtsc, none) else (none, some (221, .noRdtsc))
  else if arg = "ioport" then
    if B.haveIopermI386 then (some .accurateIoport, none) else (none, some (229, .noIoport))
  else if arg = "gtod" then (some .accurateGtod, none)
  else if arg = "nano" then (some .accurateNanosleep, none)
  else if arg = "abstime" then
    if B.haveAbsoluteTime then
      (some .accurateAbsTime, if mpLoaded then none else some (240, .mpLibraryNotLoaded))
    else (none, some (244, .noAbsoluteTime))
  else (none, some (248, .unsupportedTimer arg))

def postArgsCachefile (o : AutoOpts) (a : PostArgsAnswers) (warn : Nat) (ctx : Tcpreplay) :
    Int × Tcpreplay :=
  let ctx := match o.cachefile with
    | some _ => { ctx with options := ctx.options.loadCache a.readCache }
    | none => ctx
  (if warn > 0 then -2 else 0, ctx)

/-- `tcpreplay_post_args` from the opening of the interfaces on; the NULL handle of a failed `intf2`
open goes to `sendpacket_get_dlt`, a fault, `none`. -/
def postArgsInterfaces (o : AutoOpts) (a : PostArgsAnswers) (warn : Nat) (ctx : Tcpreplay) :
    Option (Int × Tcpreplay) :=
  let func := "tcpreplay_post_args"
  match a.intf1.intname with
  | none => some (-1, tcpreplaySeterr ctx func 266 (.invalidInterface (some o.intf1)))
  | some n1 =>
    let ctx := { ctx with options := { ctx.options with intf1Name := some n1 } }
    match a.intf1.opened with
    | .error ebuf =>
      some (-1, tcpreplaySeterr { ctx with intf1 := none } func 274 (.cantOpen (some n1) ebuf))
    | .ok sp1 =>
      let ctx := { ctx with intf1 := some sp1 }
      match o.intf2 with
      | none => some (postArgsCachefile o a warn ctx)
      | some arg2 =>
        match a.intf2.intname with
        | none => some (-1, tcpreplaySeterr ctx func 282 (.invalidInterface (some arg2)))
        | some n2 =>
          let ctx := { ctx with options := { ctx.options with intf2Name := some n2 } }
          match a.intf2.opened with
          | .error _ => none
          | .ok sp2 =>
            let ctx := { ctx with intf2 := some sp2 }
            if sp2.dlt ≠ sp1.dlt then
              some (-1, tcpreplaySeterr ctx func 295 (.dltMismatch (some n1) sp1.dlt (some n2) sp2.dlt))
            else some (postArgsCachefile o a warn ctx)

/-- `tcpreplay_post_args`: the return value and the context, or `none` for the fault of
`postArgsInterfaces`. -/
def tcpreplayPostArgs (B : Build) (o : AutoOpts) (a : PostArgsAnswers) (ctx : Tcpreplay) :
    Option (Int × Tcpreplay) :=
  let (warn, ctx) : Nat × Tcpreplay :=
    if o.dbug && !B.debug then (1, tcpreplaySetwarn ctx .debugDisabled) else (0, ctx)
  let ctx := { ctx with options := postArgsOptions o ctx.options }
  let (acc, err) := match o.timer with
    | some arg => postArgsTimer B a.mpLibraryIsLoaded arg
    | none => (none, none)
  let ctx := match acc with
    | some m => { ctx with options := { ctx.options with accurate := m } }
    | none => ctx
  match err with
  | some (line, e) => some (-1, tcpreplaySeterr ctx "tcpreplay_post_args" line e)
  | none =>
    let (warn, ctx) : Nat × Tcpreplay :=
      if o.pktlen then
        (warn + 1, tcpreplaySetwarn
          { ctx with options := { ctx.options with usePkthdrLen := true } } .pktlenCaution)
      else (warn, ctx)
    postArgsInterfaces o a warn ctx

def Tcpreplay.withIntf (ctx : Tcpreplay) :
    TcpreplayIntf → Option String → Option Sendpacket → Tcpreplay
  | .intf1, n, sp => { ctx with options := { ctx.options with intf1Name := n }, intf1 := sp }
  | .intf2, n, sp => { ctx with options := { ctx.options with intf2Name := n }, intf2 := sp }

theorem tcpreplaySetInterface_frame (st : DltStatics) (ctx : Tcpreplay) (intf : TcpreplayIntf)
    (value : String) (a : OpenAnswer) :
    let ctx' := (tcpreplaySetInterface st ctx intf value a).2.2
    ctx'.options = { ctx.options with intf1Name := ctx'.options.intf1Name,
                                      intf2Name := ctx'.options.intf2Name } ∧
      ctx'.abort = ctx.abort ∧ ctx'.running = ctx.running ∧
      ctx'.currentSource = ctx.currentSource := by
  cases intf <;> cases a with
  | mk n o => cases n <;> cases o <;> simp only [tcpreplaySetInterface, dltCheck] <;>
      (try split_ifs) <;> exact ⟨rfl, rfl, rfl, rfl⟩

structure PostArgsFrame (ctx ctx' : Tcpreplay) : Prop where
  sources : ctx'.options.sources = ctx.options.sources
  sourceCnt : ctx'.options.sourceCnt = ctx.options.sourceCnt
  fileCache : ctx'.options.fileCache = ctx.options.fileCache
  mtu : ctx'.options.mtu = ctx.options.mtu
  abort : ctx'.abort = ctx.abort
  running : ctx'.running = ctx.running
  currentSource : ctx'.currentSource = ctx.currentSource

theorem PostArgsFrame.trans {c1 c2 c3 : Tcpreplay} (h1 : PostArgsFrame c1 c2)
    (h2 : PostArgsFrame c2 c3) : PostArgsFrame c1 c3 :=
  ⟨h2.1.trans h1.1, h2.2.trans h1.2, h2.3.trans h1.3, h2.4.trans h1.4, h2.5.trans h1.5,
    h2.6.trans h1.6, h2.7.trans h1.7⟩

theorem postArgsInterfaces_frame {o : AutoOpts} {a : PostArgsAnswers} {w : Nat}
    {ctx ctx' : Tcpreplay} {r : Int} (h : postArgsInterfaces o a w ctx = some (r, ctx')) :
    PostArgsFrame ctx ctx' ∧ ctx'.options.speed = ctx.options.speed := by
  simp only [postArgsInterfaces, postArgsCachefile] at h
  repeat' split at h
  all_goals first | (cases h; exact ⟨⟨rfl, rfl, rfl, rfl, rfl, rfl, rfl⟩, rfl⟩) | cases h

theorem tcpreplayPostArgs_frame {B : Build} {o : AutoOpts} {a : PostArgsAnswers}
    {ctx ctx' : Tcpreplay} {r : Int} (h : tcpreplayPostArgs B o a ctx = some (r, ctx')) :
    PostArgsFrame ctx ctx' ∧ ctx'.options.speed = postArgsSpeed o ctx.options.speed := by
  simp only [tcpreplayPostArgs] at h
  repeat' split at h
  all_goals first
    | (cases h; exact ⟨⟨rfl, rfl, rfl, rfl, rfl, rfl, rfl⟩, rfl⟩)
    | (obtain ⟨hf, hs⟩ := postArgsInterfaces_frame h
       exact ⟨PostArgsFrame.trans (by constructor <;> rfl) hf, hs.trans rfl⟩)

theorem tcpreplaySetInterface_writes (st : DltStatics) (ctx : Tcpreplay) (intf : TcpreplayIntf)
    (value : String) (a : OpenAnswer) :
    let c := (tcpreplaySetInterface st ctx intf value a).2.2
    c = { ctx with options := c.options, intf1 := c.intf1, intf2 := c.intf2,
                   errstr := c.errstr } := by
  cases intf <;> obtain ⟨_ | n, _ | sp⟩ := a <;> simp only [tcpreplaySetInterface, dltCheck] <;>
    (try split_ifs) <;> rfl

theorem postArgsInterfaces_writes {o : AutoOpts} {a : PostArgsAnswers} {w : Nat}
    {ctx ctx' : Tcpreplay} {r : Int} (h : postArgsInterfaces o a w ctx = some (r, ctx')) :
    ctx' = { ctx with options := ctx'.options, intf1 := ctx'.intf1, intf2 := ctx'.intf2,
                      errstr := ctx'.errstr } := by
  simp only [postArgsInterfaces, postArgsCachefile] at h
  repeat' split at h
  all_goals first | (cases h; rfl) | cases h

theorem tcpreplayPostArgs_writes {B : Build} {o : AutoOpts} {a : PostArgsAnswers}
    {ctx ctx' : Tcpreplay} {r : Int} (h : tcpreplayPostArgs B o a ctx = some (r, ctx')) :
    ctx' = { ctx with options := ctx'.options, intf1 := ctx'.intf1, intf2 := ctx'.intf2,
                      errstr := ctx'.errstr, warnstr := ctx'.warnstr } := by
  simp only [tcpreplayPostArgs] at h
  repeat' split at h
  all_goals first
    | (cases h; rfl)
    | (rw [postArgsInterfaces_writes h]; rfl)
    | rw [postArgsInterfaces_writes h]

theorem postArgsInterfaces_returns {o : AutoOpts} {a : PostArgsAnswers} {w : Nat}
    {ctx ctx' : Tcpreplay} {r : Int} (h : postArgsInterfaces o a w ctx = some (r, ctx')) :
    (r = -1 ∧ ctx'.errstr.isSome) ∨ r = if w > 0 then -2 else 0 := by
  simp only [postArgsInterfaces, postArgsCachefile] at h
  repeat' split at h
  all_goals first | (cases h; exact .inl ⟨rfl, rfl⟩) | (cases h; exact .inr (by simp [*])) | cases h

/-- `tcpreplay_post_args` returns 0, -1 with `errstr` set, or -2 exactly after a warning (`--dbug`
without `DEBUG`, or `--pktlen`). -/
theorem tcpreplayPostArgs_returns {B : Build} {o : AutoOpts} {a : PostArgsAnswers}
    {ctx ctx' : Tcpreplay} {r : Int} (h : tcpreplayPostArgs B o a ctx = some (r, ctx')) :
    (r = 0 ∨ r = -1 ∨ r = -2) ∧ (r = -1 → ctx'.errstr.isSome) ∧
      (r = -2 ↔ r ≠ -1 ∧ (o.dbug && !B.debug || o.pktlen)) := by
  simp only [tcpreplayPostArgs] at h
  repeat' split at h
  all_goals first
    | (cases h; simp [tcpreplaySeterr])
    | (rcases postArgsInterfaces_returns h with ⟨rfl, he⟩ | rfl <;> simp [*])

end TcpreplayApi
