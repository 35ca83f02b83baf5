import TcpreplayApi.Context

/-! The configuration and control calls of tcpreplay_api.c other than the interface calls. Each
returns the C return value with the context it leaves. -/
namespace TcpreplayApi

/-- The shape of the plain setters: store `value` in one option and return 0, whatever it is. -/
def setOption {α : Type} (set : TcpreplayOpt → α → TcpreplayOpt) (ctx : Tcpreplay) (value : α) :
    Int × Tcpreplay :=
  (0, { ctx with options := set ctx.options value })

def tcpreplaySetSpeedMode : Tcpreplay → TcpreplaySpeedMode → Int × Tcpreplay :=
  setOption fun o v => { o with speed := { o.speed with mode := v } }

def tcpreplaySetSpeedSpeed : Tcpreplay → ℚ → Int × Tcpreplay :=
  setOption fun o v => { o with speed := { o.speed with speed := v } }

def tcpreplaySetSpeedPpsMulti : Tcpreplay → Int → Int × Tcpreplay :=
  setOption fun o v => { o with speed := { o.speed with ppsMulti := v } }

def tcpreplaySetLoop : Tcpreplay → UInt32 → Int × Tcpreplay :=
  setOption fun o v => { o with loop := v }

def tcpreplaySetSleepAccel : Tcpreplay → Int → Int × Tcpreplay :=
  setOption fun o v => { o with sleepAccel := v }

def tcpreplaySetUsePkthdrLen : Tcpreplay → Bool → Int × Tcpreplay :=
  setOption fun o v => { o with usePkthdrLen := v }

def tcpreplaySetMtu : Tcpreplay → Int → Int × Tcpreplay :=
  setOption fun o v => { o with mtu := v }

def tcpreplaySetAccurate : Tcpreplay → TcpreplayAccurate → Int × Tcpreplay :=
  setOption fun o v => { o with accurate := v }

def tcpreplaySetFileCache : Tcpreplay → Bool → Int × Tcpreplay :=
  setOption fun o v => { o with enableFileCache := v }

def tcpreplaySetLimitSend : Tcpreplay → Int → Int × Tcpreplay :=
  setOption fun o v => { o with limitSend := v }

@[simp] theorem setOption_fst {α : Type} (set : TcpreplayOpt → α → TcpreplayOpt)
    (ctx : Tcpreplay) (v : α) : (setOption set ctx v).1 = 0 := rfl

@[simp] theorem setOption_snd {α : Type} (set : TcpreplayOpt → α → TcpreplayOpt)
    (ctx : Tcpreplay) (v : α) :
    (setOption set ctx v).2 = { ctx with options := set ctx.options v } := rfl

/-- `tcpreplay_add_pcapfile`. Only the filename of the slot is written, never its `type`. -/
def tcpreplayAddPcapfile (ctx : Tcpreplay) (pcapFile : String) : Int × Tcpreplay :=
  let o := ctx.options
  if o.sourceCnt < maxFiles then
    (0, { ctx with options := { o with
      sources := Function.update o.sources o.sourceCnt
        { o.sources o.sourceCnt with filename := some pcapFile }
      fileCache := Function.update o.fileCache o.sourceCnt
        { index := o.sourceCnt, cached := false, packetCache := [] }
      sourceCnt := o.sourceCnt + 1 } })
  else
    (-1, tcpreplaySeterr ctx "tcpreplay_add_pcapfile" 566 (.tooManyFiles maxFiles))

theorem tcpreplayAddPcapfile_options (ctx : Tcpreplay) (p : String) :
    (tcpreplayAddPcapfile ctx p).2.options =
      if ctx.options.sourceCnt < maxFiles then { ctx.options with
        sources := Function.update ctx.options.sources ctx.options.sourceCnt
          { ctx.options.sources ctx.options.sourceCnt with filename := some p }
        fileCache := Function.update ctx.options.fileCache ctx.options.sourceCnt
          { index := ctx.options.sourceCnt }
        sourceCnt := ctx.options.sourceCnt + 1 }
      else ctx.options := by
  by_cases h : ctx.options.sourceCnt < maxFiles <;> simp [tcpreplayAddPcapfile, h]

theorem tcpreplayAddPcapfile_sourceCnt (ctx : Tcpreplay) (p : String) :
    (tcpreplayAddPcapfile ctx p).2.options.sourceCnt =
      if ctx.options.sourceCnt < maxFiles then ctx.options.sourceCnt + 1
      else ctx.options.sourceCnt := by
  rw [tcpreplayAddPcapfile_options]; split_ifs <;> rfl

@[simp] theorem tcpreplayAddPcapfile_abort (ctx : Tcpreplay) (p : String) :
    (tcpreplayAddPcapfile ctx p).2.abort = ctx.abort := by
  by_cases h : ctx.options.sourceCnt < maxFiles <;> simp [tcpreplayAddPcapfile, h]

@[simp] theorem tcpreplayAddPcapfile_running (ctx : Tcpreplay) (p : String) :
    (tcpreplayAddPcapfile ctx p).2.running = ctx.running := by
  by_cases h : ctx.options.sourceCnt < maxFiles <;> simp [tcpreplayAddPcapfile, h]

@[simp] theorem tcpreplayAddPcapfile_currentSource (ctx : Tcpreplay) (p : String) :
    (tcpreplayAddPcapfile ctx p).2.currentSource = ctx.currentSource := by
  by_cases h : ctx.options.sourceCnt < maxFiles <;> simp [tcpreplayAddPcapfile, h]

/-- What `read_cache` answers for the tcpprep cache file. -/
structure ReadCache where
  packets : UInt64
  data : List UInt8
  comment : String

def TcpreplayOpt.loadCache (o : TcpreplayOpt) (rc : ReadCache) : TcpreplayOpt :=
  { o with cachePackets := rc.packets, cachedata := some rc.data, comment := some rc.comment }

/-- `tcpreplay_set_tcpprep_cache`; `rc` is what `read_cache` made of the file. -/
def tcpreplaySetTcpprepCache (ctx : Tcpreplay) (rc : ReadCache) : Int × Tcpreplay :=
  if ctx.options.sourceCnt > 1 then
    (-1, tcpreplaySeterr ctx "tcpreplay_set_tcpprep_cache" 596 .tcpprepSingleFile)
  else
    (0, { ctx with options := ctx.options.loadCache rc })

def tcpreplaySetManualCallback (ctx : Tcpreplay) (callback : Nat) : Int × Tcpreplay :=
  if ctx.options.speed.mode ≠ .speedOneatatime then
    (-1, tcpreplaySeterr ctx "tcpreplay_set_manual_callback" 675 .manualCallbackMode)
  else
    (0, { ctx with options := { ctx.options with
      speed := { ctx.options.speed with manualCallback := some callback } } })

/-- The shape of the single-field getters: copy a field of `stats` into `static_stats` and return it
from there. -/
def getStat {α : Type} (get : TcpreplayStats → α) (set : TcpreplayStats → α → TcpreplayStats)
    (ctx : Tcpreplay) : α × Tcpreplay :=
  let ctx := { ctx with staticStats := set ctx.staticStats (get ctx.stats) }
  (get ctx.staticStats, ctx)

theorem getStat_eq {α : Type} {get : TcpreplayStats → α}
    {set : TcpreplayStats → α → TcpreplayStats} (hgs : ∀ s v, get (set s v) = v) (ctx : Tcpreplay) :
    getStat get set ctx =
      (get ctx.stats, { ctx with staticStats := set ctx.staticStats (get ctx.stats) }) :=
  Prod.ext (hgs _ _) rfl

def tcpreplayGetPktsSent : Tcpreplay → UInt64 × Tcpreplay :=
  getStat (·.pktsSent) fun s v => { s with pktsSent := v }

def tcpreplayGetBytesSent : Tcpreplay → UInt64 × Tcpreplay :=
  getStat (·.bytesSent) fun s v => { s with bytesSent := v }

def tcpreplayGetFailed : Tcpreplay → UInt64 × Tcpreplay :=
  getStat (·.failed) fun s v => { s with failed := v }

/-- `tcpreplay_get_start_time` copies `stats.end_time`, not `stats.start_time`. -/
def tcpreplayGetStartTime (ctx : Tcpreplay) : Timeval × Tcpreplay :=
  let ctx := { ctx with staticStats := { ctx.staticStats with startTime := ctx.stats.endTime } }
  (ctx.staticStats.startTime, ctx)

def tcpreplayGetEndTime : Tcpreplay → Timeval × Tcpreplay :=
  getStat (·.endTime) fun s v => { s with endTime := v }

def tcpreplayGetStats (ctx : Tcpreplay) : TcpreplayStats × Tcpreplay :=
  (ctx.stats, { ctx with staticStats := ctx.stats })

/-- Modelled from the spec: `sendpacket_abort` (sendpacket.c) asks the handle to stop writing
(§4.B). -/
def sendpacketAbort (sp : Sendpacket) : Sendpacket :=
  { sp with abort := true }

def tcpreplayAbort (ctx : Tcpreplay) : Int × Tcpreplay :=
  (0, { ctx with abort := true, intf1 := ctx.intf1.map sendpacketAbort,
                 intf2 := ctx.intf2.map sendpacketAbort })

def tcpreplaySuspend (ctx : Tcpreplay) : Int × Tcpreplay :=
  (0, { ctx with suspend := true })

def tcpreplayRestart (ctx : Tcpreplay) : Int × Tcpreplay :=
  (0, { ctx with suspend := false })

def tcpreplayIsSuspended (ctx : Tcpreplay) : Bool := ctx.suspend

def tcpreplayIsRunning (ctx : Tcpreplay) : Bool := ctx.running

def tcpreplayGetSourceCount (ctx : Tcpreplay) : Int := ctx.options.sourceCnt

def tcpreplayGetCurrentSource (ctx : Tcpreplay) : Int := ctx.currentSource

def tcpreplayGeterr (ctx : Tcpreplay) : Option Seterr := ctx.errstr

def tcpreplayGetwarn (ctx : Tcpreplay) : Option TcpreplayWarn := ctx.warnstr

end TcpreplayApi
