import Mathlib.Data.Rat.Defs
import Mathlib.Logic.Function.Basic

/-! The replay context of tcpreplay_api.c and the context `tcpreplay_init` hands back. Floats are
kept as the rationals they denote. -/
namespace TcpreplayApi

/-- What tcpreplay_api.c takes from headers and configure outside it. -/
structure Build where
  defaultMtu : Int
  sourceFilename : Int
  sourceFd : Int
  sourceCache : Int
  haveAbsoluteTime : Bool
  haveSelect : Bool
  haveRdtsc : Bool
  haveIopermI386 : Bool
  debug : Bool

/-- The build of the concrete runs: `DEFAULT_MTU` 1500, the source types numbered from 1, select and
rdtsc compiled in. -/
def linuxBuild : Build :=
  { defaultMtu := 1500, sourceFilename := 1, sourceFd := 2, sourceCache := 3,
    haveAbsoluteTime := false, haveSelect := true, haveRdtsc := true, haveIopermI386 := false,
    debug := false }

/-- Modelled from the spec: `MAX_FILES`, the size of the source table (§3, default 1024). -/
def maxFiles : Int := 1024

inductive TcpreplaySpeedMode
  | speedMultiplier | speedMbpsrate | speedPacketrate | speedTopspeed | speedOneatatime
  deriving DecidableEq, Repr

inductive TcpreplayAccurate
  | accurateGtod | accurateSelect | accurateRdtsc | accurateIoport | accurateNanosleep
  | accurateAbsTime
  deriving DecidableEq, Repr

inductive TcpreplaySourceType
  | sourceFilename | sourceFd | sourceCache
  deriving DecidableEq, Repr

inductive TcpreplayIntf
  | intf1 | intf2
  deriving DecidableEq, Repr

/-- `TCPR_DIR_C2S` and `TCPR_DIR_S2C`, the advisory direction of an egress. -/
inductive TcprDir
  | c2s | s2c
  deriving DecidableEq, Repr

/-- The enumerator a slot's `type` stands for, in the order of the switch of `tcpreplay_replay`;
`none` is its `default` branch. -/
def Build.sourceType (B : Build) (v : Int) : Option TcpreplaySourceType :=
  if v = B.sourceFilename then some .sourceFilename
  else if v = B.sourceFd then some .sourceFd
  else if v = B.sourceCache then some .sourceCache
  else none

structure Timeval where
  tvSec : Int := 0
  tvUsec : Int := 0
  deriving DecidableEq, Repr

structure TcpreplayStats where
  pktsSent : UInt64 := 0
  bytesSent : UInt64 := 0
  failed : UInt64 := 0
  startTime : Timeval := {}
  endTime : Timeval := {}
  deriving DecidableEq, Repr

/-- `manualCallback` is the address of the caller's function, `none` for NULL. -/
structure TcpreplaySpeed where
  mode : TcpreplaySpeedMode := .speedMultiplier
  speed : ℚ := 0
  ppsMulti : Int := 0
  manualCallback : Option Nat := none
  deriving DecidableEq

structure TcpreplaySource where
  type : Int := 0
  filename : Option String := none
  deriving DecidableEq, Repr

/-- Modelled from the spec: one record of the packet-memory cache (§3, `{ length, flags, bytes }`). -/
structure PacketCache where
  pktlen : Nat
  flags : Nat
  pktdata : List UInt8
  deriving DecidableEq, Repr

/-- The packet-memory cache of one source: its index, whether it is sealed, and its records in
insertion order. -/
structure FileCache where
  index : Int := 0
  cached : Bool := false
  packetCache : List PacketCache := []
  deriving DecidableEq, Repr

/-- An egress handle of sendpacket.c: its device, link type, direction and abort flag. -/
structure Sendpacket where
  device : String
  dlt : Int
  direction : TcprDir
  abort : Bool := false
  deriving DecidableEq, Repr

/-- `tcpreplay_opt_t`. The default of every field is what `safe_malloc`'s cleared memory holds. -/
structure TcpreplayOpt where
  loop : UInt32 := 0
  sleepAccel : Int := 0
  usePkthdrLen : Bool := false
  mtu : Int := 0
  accurate : TcpreplayAccurate := .accurateGtod
  limitSend : Int := 0
  enableFileCache : Bool := false
  speed : TcpreplaySpeed := {}
  sources : Int → TcpreplaySource := fun _ => {}
  sourceCnt : Int := 0
  fileCache : Int → FileCache := fun _ => {}
  intf1Name : Option String := none
  intf2Name : Option String := none
  cachePackets : UInt64 := 0
  cachedata : Option (List UInt8) := none
  comment : Option String := none

/-- The errors tcpreplay_api.c reports through `tcpreplay_seterr`, with the values each format
prints. -/
inductive TcpreplayErr
  /-- "tcpreplay_api not compiled with select support" -/
  | noSelect
  /-- "tcpreplay_api not compiled with rdtsc support" -/
  | noRdtsc
  /-- "tcpreplay_api not compiled with IO Port 0x80 support" -/
  | noIoport
  /-- "The MP library did not load.\n" -/
  | mpLibraryNotLoaded
  /-- "tcpreplay_api only supports absolute time on Apple OS X" -/
  | noAbsoluteTime
  /-- "Unsupported timer mode: %s" -/
  | unsupportedTimer (arg : String)
  /-- "Invalid interface name/alias: %s" -/
  | invalidInterface (name : Option String)
  /-- "Can't open %s: %s" -/
  | cantOpen (name : Option String) (ebuf : String)
  /-- "DLT type missmatch for %s (%s) and %s (%s)", names and link types of both interfaces -/
  | dltMismatch (name1 : Option String) (dlt1 : Int) (name2 : Option String) (dlt2 : Int)
  /-- "Unable to add more then %u files" -/
  | tooManyFiles (max : Int)
  /-- "Unable to use tcpprep cache file with a single pcap file" -/
  | tcpprepSingleFile
  /-- "Unable to set manual callback because speed mode is not 'speed_oneatatime'" -/
  | manualCallbackMode
  /-- "invalid source index value: %d" -/
  | invalidSourceIndex (idx : Int)
  /-- "gettimeofday() failed: %s" -/
  | gettimeofdayFailed (err : String)
  /-- "Invalid source type: %d" -/
  | invalidSourceType (type : Int)
  deriving DecidableEq, Repr

inductive TcpreplayWarn
  /-- "Unable to set STDERR to non-blocking: %s" -/
  | stderrNonblocking (err : String)
  /-- "not configured with --enable-debug.  Debugging disabled." -/
  | debugDisabled
  /-- "--pktlen may cause problems.  Use with caution." -/
  | pktlenCaution
  deriving DecidableEq, Repr

/-- The text of `errstr`: "From %s:%s() line %d:\n%s" with the function, line and error. -/
structure Seterr where
  func : String
  line : Nat
  err : TcpreplayErr
  deriving DecidableEq, Repr

/-- `tcpreplay_t`. `errstr` and `warnstr` are `none` while their buffers are still cleared. -/
structure Tcpreplay where
  options : TcpreplayOpt := {}
  intf1 : Option Sendpacket := none
  intf2 : Option Sendpacket := none
  errstr : Option Seterr := none
  warnstr : Option TcpreplayWarn := none
  cacheBit : Int := 0
  cacheByte : Int := 0
  currentSource : Int := 0
  stats : TcpreplayStats := {}
  staticStats : TcpreplayStats := {}
  abort : Bool := false
  suspend : Bool := false
  running : Bool := false

/-- `__tcpreplay_seterr`, called through the `tcpreplay_seterr` macro with the caller's name and
line. -/
def tcpreplaySeterr (ctx : Tcpreplay) (func : String) (line : Nat) (err : TcpreplayErr) :
    Tcpreplay :=
  { ctx with errstr := some ⟨func, line, err⟩ }

def tcpreplaySetwarn (ctx : Tcpreplay) (w : TcpreplayWarn) : Tcpreplay :=
  { ctx with warnstr := some w }

/-- `tcpreplay_init`. `fcntlErr` is `strerror(errno)` when setting STDERR non-blocking fails. -/
def tcpreplayInit (B : Build) (fcntlErr : Option String) : Tcpreplay :=
  let ctx : Tcpreplay := { options :=
    { loop := 1
      speed := { mode := .speedMultiplier, speed := 1 }
      accurate := if B.haveAbsoluteTime then .accurateAbsTime else .accurateGtod
      mtu := B.defaultMtu
      limitSend := -1 } }
  let ctx := match fcntlErr with
    | some e => tcpreplaySetwarn ctx (.stderrNonblocking e)
    | none => ctx
  { ctx with abort := false }

@[simp] theorem tcpreplaySeterr_options (ctx : Tcpreplay) (f : String) (l : Nat)
    (e : TcpreplayErr) : (tcpreplaySeterr ctx f l e).options = ctx.options := rfl

@[simp] theorem tcpreplaySeterr_running (ctx : Tcpreplay) (f : String) (l : Nat)
    (e : TcpreplayErr) : (tcpreplaySeterr ctx f l e).running = ctx.running := rfl

@[simp] theorem tcpreplaySeterr_abort (ctx : Tcpreplay) (f : String) (l : Nat)
    (e : TcpreplayErr) : (tcpreplaySeterr ctx f l e).abort = ctx.abort := rfl

@[simp] theorem tcpreplaySeterr_currentSource (ctx : Tcpreplay) (f : String) (l : Nat)
    (e : TcpreplayErr) : (tcpreplaySeterr ctx f l e).currentSource = ctx.currentSource := rfl

/-- `ctx'` is `ctx` with at most `errstr` written. -/
def Tcpreplay.ErrOnly (ctx ctx' : Tcpreplay) : Prop := ctx' = { ctx with errstr := ctx'.errstr }

theorem tcpreplayInit_clear (B : Build) (fcntlErr : Option String) :
    let ctx := tcpreplayInit B fcntlErr
    ctx.options.sourceCnt = 0 ∧ (∀ i, ctx.options.sources i = {}) ∧
      (∀ i, ctx.options.fileCache i = {}) ∧ ctx.options.cachedata = none ∧
      ctx.abort = false ∧ ctx.running = false := by
  cases fcntlErr <;> exact ⟨rfl, fun _ => rfl, fun _ => rfl, rfl, rfl, rfl⟩

end TcpreplayApi
