import TcpreplayApi.Interface
import TcpreplayApi.Replay

/-! A process using the API on one context: calls, and a replay as a worker whose steps
interleave with the observer calls of another thread. -/
namespace TcpreplayApi

/-- A call of the API other than `tcpreplay_replay`, with the answers of the environment it
reads. -/
inductive ApiCall
  | setInterface (intf : TcpreplayIntf) (value : String) (a : OpenAnswer)
  | postArgs (o : AutoOpts) (a : PostArgsAnswers)
  | setSpeedMode (value : TcpreplaySpeedMode)
  | setSpeedSpeed (value : ℚ)
  | setSpeedPpsMulti (value : Int)
  | setLoop (value : UInt32)
  | setSleepAccel (value : Int)
  | setUsePkthdrLen (value : Bool)
  | setMtu (value : Int)
  | setAccurate (value : TcpreplayAccurate)
  | setFileCache (value : Bool)
  | addPcapfile (pcapFile : String)
  | setLimitSend (value : Int)
  | setTcpprepCache (rc : ReadCache)
  | setManualCallback (callback : Nat)
  | getPktsSent | getBytesSent | getFailed | getStartTime | getEndTime | getStats
  | abort | suspend | restart

/-- The calls the source documents as made from another thread while `tcpreplay_replay` runs. -/
def ApiCall.isObserver : ApiCall → Bool
  | .getPktsSent | .getBytesSent | .getFailed | .getStartTime | .getEndTime | .getStats
  | .abort | .suspend | .restart => true
  | _ => false

def ApiCall.run (B : Build) : ApiCall → DltStatics → Tcpreplay → Option (DltStatics × Tcpreplay)
  | .setInterface intf value a, st, ctx => some (tcpreplaySetInterface st ctx intf value a).2
  | .postArgs o a, st, ctx => (tcpreplayPostArgs B o a ctx).map fun r => (st, r.2)
  | .setSpeedMode v, st, ctx => some (st, (tcpreplaySetSpeedMode ctx v).2)
  | .setSpeedSpeed v, st, ctx => some (st, (tcpreplaySetSpeedSpeed ctx v).2)
  | .setSpeedPpsMulti v, st, ctx => some (st, (tcpreplaySetSpeedPpsMulti ctx v).2)
  | .setLoop v, st, ctx => some (st, (tcpreplaySetLoop ctx v).2)
  | .setSleepAccel v, st, ctx => some (st, (tcpreplaySetSleepAccel ctx v).2)
  | .setUsePkthdrLen v, st, ctx => some (st, (tcpreplaySetUsePkthdrLen ctx v).2)
  | .setMtu v, st, ctx => some (st, (tcpreplaySetMtu ctx v).2)
  | .setAccurate v, st, ctx => some (st, (tcpreplaySetAccurate ctx v).2)
  | .setFileCache v, st, ctx => some (st, (tcpreplaySetFileCache ctx v).2)
  | .addPcapfile p, st, ctx => some (st, (tcpreplayAddPcapfile ctx p).2)
  | .setLimitSend v, st, ctx => some (st, (tcpreplaySetLimitSend ctx v).2)
  | .setTcpprepCache rc, st, ctx => some (st, (tcpreplaySetTcpprepCache ctx rc).2)
  | .setManualCallback cb, st, ctx => some (st, (tcpreplaySetManualCallback ctx cb).2)
  | .getPktsSent, st, ctx => some (st, (tcpreplayGetPktsSent ctx).2)
  | .getBytesSent, st, ctx => some (st, (tcpreplayGetBytesSent ctx).2)
  | .getFailed, st, ctx => some (st, (tcpreplayGetFailed ctx).2)
  | .getStartTime, st, ctx => some (st, (tcpreplayGetStartTime ctx).2)
  | .getEndTime, st, ctx => some (st, (tcpreplayGetEndTime ctx).2)
  | .getStats, st, ctx => some (st, (tcpreplayGetStats ctx).2)
  | .abort, st, ctx => some (st, (tcpreplayAbort ctx).2)
  | .suspend, st, ctx => some (st, (tcpreplaySuspend ctx).2)
  | .restart, st, ctx => some (st, (tcpreplayRestart ctx).2)

/-- A process with one context: the statics, the context, and where the call of `tcpreplay_replay`
in progress stands. -/
structure Session where
  statics : DltStatics
  ctx : Tcpreplay
  worker : Option ReplayPc

def Session.init (B : Build) (fcntlErr : Option String) : Session :=
  ⟨{}, tcpreplayInit B fcntlErr, none⟩

inductive SessionLabel
  | call (c : ApiCall)
  | replay (idx : Int)
  | work (l : ReplayLabel)
  | ret (r : Int)

/-- One step of a process: a call, between replays or as an observer during one, or a step of the
worker. -/
inductive SessionStep (B : Build) (D : DriverModel) : Session → SessionLabel → Session → Prop
  | call {s : Session} {c : ApiCall} {st : DltStatics} {ctx : Tcpreplay} :
      (c.isObserver ∨ s.worker = none) → c.run B s.statics s.ctx = some (st, ctx) →
      SessionStep B D s (.call c) ⟨st, ctx, s.worker⟩
  | replay {s : Session} {idx : Int} : s.worker = none →
      SessionStep B D s (.replay idx) ⟨s.statics, s.ctx, some (.entry idx)⟩
  | work {s : Session} {pc pc' : ReplayPc} {l : ReplayLabel} {ctx : Tcpreplay} :
      s.worker = some pc → ReplayStep B D (pc, s.ctx) l (pc', ctx) →
      SessionStep B D s (.work l) ⟨s.statics, ctx, some pc'⟩
  | ret {s : Session} {r : Int} : s.worker = some (.done r) →
      SessionStep B D s (.ret r) ⟨s.statics, s.ctx, none⟩

inductive SessionRun (B : Build) (D : DriverModel) : Session → List SessionLabel → Session → Prop
  | refl (s : Session) : SessionRun B D s [] s
  | tail {s t u : Session} {ls : List SessionLabel} {l : SessionLabel} :
      SessionRun B D s ls t → SessionStep B D t l u → SessionRun B D s (ls ++ [l]) u

/-- The states a process reaches from `tcpreplay_init`. -/
def Reach (B : Build) (D : DriverModel) (s : Session) : Prop :=
  ∃ e ls, SessionRun B D (Session.init B e) ls s

structure CallFrame (ctx ctx' : Tcpreplay) : Prop where
  sources : ctx'.options.sources = ctx.options.sources
  sourceCnt : ctx'.options.sourceCnt = ctx.options.sourceCnt
  fileCache : ctx'.options.fileCache = ctx.options.fileCache
  abort : ctx'.abort = ctx.abort
  running : ctx'.running = ctx.running
  currentSource : ctx'.currentSource = ctx.currentSource

structure ObserverFrame (ctx ctx' : Tcpreplay) : Prop where
  options : ctx'.options = ctx.options
  currentSource : ctx'.currentSource = ctx.currentSource
  running : ctx'.running = ctx.running

section
variable {B : Build} {D : DriverModel} {c : ApiCall} {st st' : DltStatics} {ctx ctx' : Tcpreplay}

theorem ApiCall.run_cases (h : c.run B st ctx = some (st', ctx')) :
    (∃ p, c = .addPcapfile p ∧ ctx' = (tcpreplayAddPcapfile ctx p).2) ∨
      (c = .abort ∧ ctx' = (tcpreplayAbort ctx).2) ∨ CallFrame ctx ctx' := by
  cases c with
  | addPcapfile p => cases h; exact .inl ⟨p, rfl, rfl⟩
  | abort => cases h; exact .inr (.inl ⟨rfl, rfl⟩)
  | setInterface intf v a =>
    obtain rfl : ctx' = (tcpreplaySetInterface st ctx intf v a).2.2 :=
      (congrArg Prod.snd (Option.some.inj h)).symm
    obtain ⟨ho, hab, hrun, hcur⟩ := tcpreplaySetInterface_frame st ctx intf v a
    exact .inr (.inr ⟨congrArg (·.sources) ho, congrArg (·.sourceCnt) ho,
      congrArg (·.fileCache) ho, hab, hrun, hcur⟩)
  | postArgs o a =>
    obtain ⟨⟨r, c'⟩, hp, he⟩ := Option.map_eq_some'.mp h
    cases he
    obtain ⟨hf, -⟩ := tcpreplayPostArgs_frame hp
    exact .inr (.inr ⟨hf.sources, hf.sourceCnt, hf.fileCache, hf.abort, hf.running,
      hf.currentSource⟩)
  | setTcpprepCache _ | setManualCallback _ =>
    cases h; simp only [tcpreplaySetTcpprepCache, tcpreplaySetManualCallback]
    split_ifs <;> exact .inr (.inr ⟨rfl, rfl, rfl, rfl, rfl, rfl⟩)
  | _ => cases h; exact .inr (.inr ⟨rfl, rfl, rfl, rfl, rfl, rfl⟩)

theorem ApiCall.run_observer (ho : c.isObserver) (h : c.run B st ctx = some (st', ctx')) :
    st' = st ∧ ObserverFrame ctx ctx' := by
  cases c <;> simp only [ApiCall.isObserver, Bool.false_eq_true] at ho <;>
    (cases h; exact ⟨rfl, rfl, rfl, rfl⟩)

/-- No call clears `abort`. -/
theorem ApiCall.run_abort (h : c.run B st ctx = some (st', ctx')) (ha : ctx.abort) : ctx'.abort := by
  rcases ApiCall.run_cases h with ⟨p, -, rfl⟩ | ⟨-, rfl⟩ | hf
  · simpa using ha
  · rfl
  · exact hf.abort ▸ ha

end

section
variable {B : Build} {D : DriverModel} {s t u : Session} {l : SessionLabel}
  {ls ls' : List SessionLabel}

theorem SessionRun.inv (h : SessionRun B D s ls t) (I : Session → Prop)
    (hstep : ∀ {s l t}, I s → SessionStep B D s l t → I t) (hs : I s) : I t := by
  induction h with
  | refl => exact hs
  | tail _ hst ih => exact hstep ih hst

theorem SessionRun.append (h : SessionRun B D s ls t) (h' : SessionRun B D t ls' u) :
    SessionRun B D s (ls ++ ls') u := by
  induction h' with
  | refl => simpa using h
  | tail _ hst ih => simpa using ih.tail hst

theorem SessionRun.call (h : SessionRun B D s ls t) (c : ApiCall) {st : DltStatics}
    {ctx : Tcpreplay} (hw : c.isObserver ∨ t.worker = none)
    (hc : c.run B t.statics t.ctx = some (st, ctx)) :
    SessionRun B D s (ls ++ [.call c]) ⟨st, ctx, t.worker⟩ :=
  h.tail (.call hw hc)

theorem SessionRun.replay (h : SessionRun B D s ls t) (idx : Int) (hw : t.worker = none) :
    SessionRun B D s (ls ++ [.replay idx]) ⟨t.statics, t.ctx, some (.entry idx)⟩ :=
  h.tail (.replay hw)

theorem SessionRun.ofWorker {p t : ReplayPc × Tcpreplay} {ws : List ReplayLabel}
    (h : ReplayRun B D p ws t) (hw : s.worker = some p.1) (hc : s.ctx = p.2) :
    SessionRun B D s (ws.map .work) ⟨s.statics, t.2, some t.1⟩ := by
  induction h with
  | refl =>
    obtain ⟨st, ctx, w⟩ := s
    cases hw; cases hc
    exact .refl _
  | tail _ hst ih => simpa using ih.tail (.work rfl hst)

theorem Reach.run (hs : Reach B D s) (h : SessionRun B D s ls t) : Reach B D t := by
  obtain ⟨e, ls0, h0⟩ := hs
  exact ⟨e, _, h0.append h⟩

theorem Reach.init (e : Option String) : Reach B D (Session.init B e) :=
  ⟨e, [], .refl _⟩

theorem SessionStep.abort (h : SessionStep B D s l t) (ha : s.ctx.abort) : t.ctx.abort := by
  cases h with
  | call _ hc => exact ApiCall.run_abort hc ha
  | work _ hst => exact hst.frame.abort ▸ ha
  | replay _ | ret _ => exact ha

end

end TcpreplayApi
