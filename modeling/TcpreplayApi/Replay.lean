import TcpreplayApi.Setters

/-! `tcpreplay_replay` as a machine: one step per test or assignment of the C text, with the
clock and the per-source drivers of replay.c answering as the environment chooses. -/
namespace TcpreplayApi

/-- Modelled from the spec: what one run of `replay_file`, `replay_fd` or `replay_cache` (replay.c)
leaves behind (§4.G). -/
structure DriverRun where
  rcode : Int
  stats : TcpreplayStats
  cacheByte : Int
  cacheBit : Int
  fileCache : Int → FileCache
  errstr : Option Seterr

/-- Which runs the drivers may make for the slot `i` of the context `ctx`, by source kind. -/
def DriverModel : Type := Tcpreplay → Int → TcpreplaySourceType → DriverRun → Prop

def DriverRun.apply (r : DriverRun) (ctx : Tcpreplay) : Tcpreplay :=
  { ctx with stats := r.stats, cacheByte := r.cacheByte, cacheBit := r.cacheBit,
             options := { ctx.options with fileCache := r.fileCache }, errstr := r.errstr }

/-- A driver call as the worker makes it: the driver, the slot, the routing cursor and `running`. -/
structure Invocation where
  kind : TcpreplaySourceType
  index : Int
  cacheByte : Int
  cacheBit : Int
  running : Bool
  deriving DecidableEq, Repr

inductive ReplayLabel
  | tau
  | clock (t : Except String Timeval)
  | driver (inv : Invocation) (r : DriverRun)

/-- Where a call of `tcpreplay_replay` stands; `forever` tells the loop under `while (1)` from the
one under `while (ctx->options->loop--)`. -/
inductive ReplayPc
  | entry (idx : Int)
  | start
  | loopTest
  | sourceTest (forever : Bool)
  | dispatch (forever : Bool)
  | inDriver (forever : Bool) (kind : TcpreplaySourceType)
  | checkRcode (forever : Bool) (rcode : Int)
  | finish
  | done (ret : Int)
  deriving DecidableEq, Repr

/-- `gettimeofday(&ctx->stats.start_time)` answered `t`, then `ctx->running = true`. -/
def Tcpreplay.startRun (ctx : Tcpreplay) (t : Timeval) : Tcpreplay :=
  { ctx with stats := { ctx.stats with startTime := t }, running := true }

/-- The post-decrement of `while (ctx->options->loop--)`, which wraps at 0. -/
def Tcpreplay.decLoop (ctx : Tcpreplay) : Tcpreplay :=
  { ctx with options := { ctx.options with loop := ctx.options.loop - 1 } }

def Tcpreplay.resetMarkers (ctx : Tcpreplay) : Tcpreplay :=
  { ctx with cacheByte := 0, cacheBit := 0 }

def Tcpreplay.slotType (ctx : Tcpreplay) : Int :=
  (ctx.options.sources ctx.currentSource).type

def Tcpreplay.invocation (ctx : Tcpreplay) (k : TcpreplaySourceType) : Invocation :=
  ⟨k, ctx.currentSource, ctx.cacheByte, ctx.cacheBit, ctx.running⟩

/-- One step of `tcpreplay_replay`. The file-cache set-up compares the array `file_cache` with NULL,
which never holds, so it has no step. -/
inductive ReplayStep (B : Build) (D : DriverModel) :
    ReplayPc × Tcpreplay → ReplayLabel → ReplayPc × Tcpreplay → Prop
  | badIndex {idx : Int} {ctx : Tcpreplay} : (idx < 0 ∨ idx > ctx.options.sourceCnt) →
      ReplayStep B D (.entry idx, ctx) .tau
        (.done (-1), tcpreplaySeterr ctx "tcpreplay_replay" 804 (.invalidSourceIndex idx))
  | goodIndex {idx : Int} {ctx : Tcpreplay} : ¬(idx < 0 ∨ idx > ctx.options.sourceCnt) →
      ReplayStep B D (.entry idx, ctx) .tau (.start, ctx)
  | clockFails {ctx : Tcpreplay} {e : String} :
      ReplayStep B D (.start, ctx) (.clock (.error e))
        (.done (-1), tcpreplaySeterr ctx "tcpreplay_replay" 821 (.gettimeofdayFailed e))
  | startLimited {ctx : Tcpreplay} {t : Timeval} : 0 < ctx.options.loop →
      ReplayStep B D (.start, ctx) (.clock (.ok t)) (.loopTest, ctx.startRun t)
  | startForever {ctx : Tcpreplay} {t : Timeval} : ¬ 0 < ctx.options.loop →
      ReplayStep B D (.start, ctx) (.clock (.ok t))
        (.sourceTest true, { ctx.startRun t with currentSource := 0 })
  | nextPass {ctx : Tcpreplay} : ctx.options.loop ≠ 0 →
      ReplayStep B D (.loopTest, ctx) .tau (.sourceTest false, { ctx.decLoop with currentSource := 0 })
  | lastPass {ctx : Tcpreplay} : ctx.options.loop = 0 →
      ReplayStep B D (.loopTest, ctx) .tau (.finish, ctx.decLoop)
  | nextSource {f : Bool} {ctx : Tcpreplay} : ctx.currentSource < ctx.options.sourceCnt →
      ReplayStep B D (.sourceTest f, ctx) .tau (.dispatch f, ctx)
  | endPass {ctx : Tcpreplay} : ¬ ctx.currentSource < ctx.options.sourceCnt →
      ReplayStep B D (.sourceTest false, ctx) .tau (.loopTest, ctx)
  | restartPass {ctx : Tcpreplay} : ¬ ctx.currentSource < ctx.options.sourceCnt →
      ReplayStep B D (.sourceTest true, ctx) .tau (.sourceTest true, { ctx with currentSource := 0 })
  | callDriver {f : Bool} {ctx : Tcpreplay} {k : TcpreplaySourceType} :
      B.sourceType ctx.slotType = some k →
      ReplayStep B D (.dispatch f, ctx) .tau (.inDriver f k, ctx.resetMarkers)
  | badType {f : Bool} {ctx : Tcpreplay} : B.sourceType ctx.slotType = none →
      ReplayStep B D (.dispatch f, ctx) .tau
        (.checkRcode f (-1), tcpreplaySeterr ctx.resetMarkers "tcpreplay_replay"
          (if f then 879 else 848) (.invalidSourceType ctx.slotType))
  | driverReturns {f : Bool} {k : TcpreplaySourceType} {ctx : Tcpreplay} {r : DriverRun} :
      D ctx ctx.currentSource k r →
      ReplayStep B D (.inDriver f k, ctx) (.driver (ctx.invocation k) r)
        (.checkRcode f r.rcode, r.apply ctx)
  | failed {f : Bool} {rc : Int} {ctx : Tcpreplay} : rc < 0 →
      ReplayStep B D (.checkRcode f rc, ctx) .tau (.done (-1), { ctx with running := false })
  | succeeded {f : Bool} {rc : Int} {ctx : Tcpreplay} : ¬ rc < 0 →
      ReplayStep B D (.checkRcode f rc, ctx) .tau
        (.sourceTest f, { ctx with currentSource := ctx.currentSource + 1 })
  | finished {ctx : Tcpreplay} :
      ReplayStep B D (.finish, ctx) .tau (.done 0, { ctx with running := false })

theorem UInt32.toNat_pred {L : UInt32} (h : L ≠ 0) : (L - 1).toNat = L.toNat - 1 := by
  have h1 : L.toNat ≠ 0 := fun h0 => h (UInt32.toNat.inj (by simpa using h0))
  rw [UInt32.toNat_sub_of_le _ _ (by
    simp only [UInt32.le_def, BitVec.le_def]; change 1 ≤ L.toNat; omega)]
  rfl

theorem UInt32.pos_iff_toNat_pos {L : UInt32} : 0 < L ↔ 0 < L.toNat := by
  simp [UInt32.lt_def, BitVec.lt_def]; rfl

theorem UInt32.eq_zero_iff_toNat {L : UInt32} : L = 0 ↔ L.toNat = 0 :=
  ⟨fun h => h ▸ rfl, fun h => UInt32.toNat.inj h⟩

theorem UInt32.ne_zero_of_pos {L : UInt32} (h : 0 < L) : L ≠ 0 :=
  fun h0 => absurd (h0 ▸ h) (by decide)

inductive ReplayRun (B : Build) (D : DriverModel) :
    ReplayPc × Tcpreplay → List ReplayLabel → ReplayPc × Tcpreplay → Prop
  | refl (s : ReplayPc × Tcpreplay) : ReplayRun B D s [] s
  | tail {s t u : ReplayPc × Tcpreplay} {ls : List ReplayLabel} {l : ReplayLabel} :
      ReplayRun B D s ls t → ReplayStep B D t l u → ReplayRun B D s (ls ++ [l]) u

/-- The options with `loop` and `file_cache` cleared: what the worker never writes. -/
def TcpreplayOpt.fixed (o : TcpreplayOpt) : TcpreplayOpt :=
  { o with loop := 0, fileCache := fun _ => {} }

structure WorkerFrame (ctx ctx' : Tcpreplay) : Prop where
  fixed : ctx'.options.fixed = ctx.options.fixed
  abort : ctx'.abort = ctx.abort
  suspend : ctx'.suspend = ctx.suspend
  intf1 : ctx'.intf1 = ctx.intf1
  intf2 : ctx'.intf2 = ctx.intf2

theorem WorkerFrame.sources {ctx ctx' : Tcpreplay} (h : WorkerFrame ctx ctx') :
    ctx'.options.sources = ctx.options.sources := by
  have := congrArg TcpreplayOpt.sources h.fixed
  exact this

theorem WorkerFrame.sourceCnt {ctx ctx' : Tcpreplay} (h : WorkerFrame ctx ctx') :
    ctx'.options.sourceCnt = ctx.options.sourceCnt := by
  have := congrArg TcpreplayOpt.sourceCnt h.fixed
  exact this

theorem ReplayStep.frame {B : Build} {D : DriverModel} {s t : ReplayPc × Tcpreplay}
    {l : ReplayLabel} (h : ReplayStep B D s l t) : WorkerFrame s.2 t.2 := by
  cases h <;> exact ⟨rfl, rfl, rfl, rfl, rfl⟩

theorem ReplayRun.frame_sourceCnt {B : Build} {D : DriverModel} {s t : ReplayPc × Tcpreplay}
    {ls : List ReplayLabel} (h : ReplayRun B D s ls t) :
    t.2.options.sourceCnt = s.2.options.sourceCnt := by
  induction h with
  | refl => rfl
  | tail _ hst ih => exact hst.frame.sourceCnt.trans ih

theorem ReplayStep.fileCache {B : Build} {D : DriverModel} {s t : ReplayPc × Tcpreplay}
    {l : ReplayLabel} (h : ReplayStep B D s l t) :
    t.2.options.fileCache = s.2.options.fileCache ∨
      ∃ f k r, s.1 = .inDriver f k ∧ D s.2 s.2.currentSource k r ∧
        t.2.options.fileCache = r.fileCache := by
  cases h with
  | driverReturns hd => exact .inr ⟨_, _, _, rfl, hd, rfl⟩
  | _ => exact .inl rfl

/-- Wherever the worker reads a slot, its index lies in the source table. -/
def ReplayPc.InBounds : ReplayPc → Tcpreplay → Prop
  | .sourceTest _, ctx => 0 ≤ ctx.currentSource ∧ ctx.currentSource ≤ ctx.options.sourceCnt
  | .dispatch _, ctx | .inDriver _ _, ctx | .checkRcode _ _, ctx =>
      0 ≤ ctx.currentSource ∧ ctx.currentSource < ctx.options.sourceCnt
  | _, _ => True

theorem ReplayPc.inBounds_congr {pc : ReplayPc} {ctx ctx' : Tcpreplay}
    (hc : ctx'.currentSource = ctx.currentSource)
    (hn : ctx'.options.sourceCnt = ctx.options.sourceCnt) : pc.InBounds ctx' ↔ pc.InBounds ctx := by
  cases pc <;> simp only [ReplayPc.InBounds, hc, hn]

/-- The worker is in, or bound for, the limited loop. -/
def ReplayPc.Limited : ReplayPc → Tcpreplay → Prop
  | .entry _, ctx | .start, ctx => 0 < ctx.options.loop
  | .sourceTest f, _ | .dispatch f, _ | .inDriver f _, _ | .checkRcode f _, _ => f = false
  | _, _ => True

section
variable {B : Build} {D : DriverModel} {pc pc' : ReplayPc} {ctx ctx' : Tcpreplay}
  {l : ReplayLabel}

/-- The index check is the only use of `idx`: past it the call goes on from `(start, ctx)`, whatever
the index was. -/
theorem ReplayStep.entry_iff {idx : Int} {l : ReplayLabel} {t : ReplayPc × Tcpreplay} :
    ReplayStep B D (.entry idx, ctx) l t ↔ l = .tau ∧
      t = if idx < 0 ∨ idx > ctx.options.sourceCnt then
        (.done (-1), tcpreplaySeterr ctx "tcpreplay_replay" 804 (.invalidSourceIndex idx))
      else (.start, ctx) := by
  constructor
  · rintro (⟨hb⟩ | ⟨hb⟩)
    exacts [⟨rfl, (if_pos hb).symm⟩, ⟨rfl, (if_neg hb).symm⟩]
  · rintro ⟨rfl, rfl⟩
    split_ifs with hb
    exacts [.badIndex hb, .goodIndex hb]

theorem ReplayStep.inBounds (h : ReplayStep B D (pc, ctx) l (pc', ctx'))
    (hc : 0 ≤ ctx.options.sourceCnt) (hb : pc.InBounds ctx) : pc'.InBounds ctx' := by
  cases h with
  | startForever _ | nextPass _ | restartPass _ => exact ⟨Int.le_refl 0, hc⟩
  | nextSource hlt => exact ⟨hb.1, hlt⟩
  | succeeded _ => obtain ⟨h0, h1⟩ := hb; exact ⟨by dsimp only; omega, by dsimp only; omega⟩
  | callDriver _ | badType _ | driverReturns _ => exact hb
  | _ => trivial

theorem ReplayStep.limited (h : ReplayStep B D (pc, ctx) l (pc', ctx')) (hm : pc.Limited ctx) :
    pc'.Limited ctx' := by
  cases h with
  | startForever hz => exact absurd hm hz
  | _ => first | rfl | exact hm | trivial

/-- Steps left to a call in the limited branch: a pass over `s` slots takes `4 s + 2` steps. -/
def replayMeasure : ReplayPc × Tcpreplay → Nat
  | (pc, ctx) =>
    let s := ctx.options.sourceCnt.toNat
    let j := ctx.currentSource.toNat
    let rest := ctx.options.loop.toNat * (4 * s + 2) + 2
    match pc with
    | .entry _ => rest + 2
    | .start => rest + 1
    | .loopTest => rest
    | .sourceTest _ => 4 * (s - j) + 1 + rest
    | .dispatch _ => 4 * (s - j) + rest
    | .inDriver _ _ => 4 * (s - j) - 1 + rest
    | .checkRcode _ _ => 4 * (s - j) - 2 + rest
    | .finish => 1
    | .done _ => 0

theorem ReplayStep.measure_lt (h : ReplayStep B D (pc, ctx) l (pc', ctx'))
    (hm : pc.Limited ctx) (hb : pc.InBounds ctx) :
    replayMeasure (pc', ctx') < replayMeasure (pc, ctx) := by
  cases h with
  | startForever hz => exact absurd hm hz
  | restartPass _ => simp [ReplayPc.Limited] at hm
  | nextPass hL =>
    obtain ⟨m, hm'⟩ : ∃ m, ctx.options.loop.toNat = m + 1 :=
      ⟨_, (Nat.succ_pred_eq_of_ne_zero (UInt32.eq_zero_iff_toNat.not.mp hL)).symm⟩
    simp only [replayMeasure, Tcpreplay.decLoop, UInt32.toNat_pred hL, hm', Nat.add_sub_cancel,
      Nat.add_mul, Nat.one_mul]
    omega
  | _ =>
    simp only [ReplayPc.InBounds] at hb
    simp only [replayMeasure, Tcpreplay.startRun, Tcpreplay.decLoop, Tcpreplay.resetMarkers,
      DriverRun.apply, tcpreplaySeterr]
    omega

theorem ReplayStep.progress (hD : ∀ c i k, ∃ r, D c i k r) (pc : ReplayPc) (ctx : Tcpreplay)
    (h : ∀ r, pc ≠ .done r) : ∃ l t, ReplayStep B D (pc, ctx) l t := by
  cases pc with
  | entry idx =>
    by_cases hb : idx < 0 ∨ idx > ctx.options.sourceCnt
    exacts [⟨_, _, .badIndex hb⟩, ⟨_, _, .goodIndex hb⟩]
  | start =>
    by_cases hl : 0 < ctx.options.loop
    exacts [⟨.clock (.ok {}), _, .startLimited hl⟩, ⟨.clock (.ok {}), _, .startForever hl⟩]
  | loopTest =>
    by_cases hl : ctx.options.loop = 0
    exacts [⟨_, _, .lastPass hl⟩, ⟨_, _, .nextPass hl⟩]
  | sourceTest f =>
    by_cases hlt : ctx.currentSource < ctx.options.sourceCnt
    · exact ⟨_, _, .nextSource hlt⟩
    · cases f
      exacts [⟨_, _, .endPass hlt⟩, ⟨_, _, .restartPass hlt⟩]
  | dispatch f =>
    cases hk : B.sourceType ctx.slotType
    exacts [⟨_, _, .badType hk⟩, ⟨_, _, .callDriver hk⟩]
  | inDriver f k =>
    obtain ⟨r, hr⟩ := hD ctx ctx.currentSource k
    exact ⟨_, _, .driverReturns hr⟩
  | checkRcode f rc =>
    by_cases hrc : rc < 0
    exacts [⟨_, _, .failed hrc⟩, ⟨_, _, .succeeded hrc⟩]
  | finish => exact ⟨_, _, .finished⟩
  | done r => exact absurd rfl (h r)

theorem ReplayRun.measure {s0 t : ReplayPc × Tcpreplay} {ls : List ReplayLabel}
    (hr : ReplayRun B D s0 ls t) (hm : s0.1.Limited s0.2) (hb : s0.1.InBounds s0.2)
    (hc : 0 ≤ s0.2.options.sourceCnt) :
    t.1.Limited t.2 ∧ t.1.InBounds t.2 ∧ ls.length + replayMeasure t ≤ replayMeasure s0 := by
  induction hr with
  | refl => exact ⟨hm, hb, by simp⟩
  | @tail t u ls l hr' hst ih =>
    obtain ⟨hm', hb', hlen⟩ := ih
    have hc' : 0 ≤ t.2.options.sourceCnt := (ReplayRun.frame_sourceCnt hr').symm ▸ hc
    have := hst.measure_lt hm' hb'
    change replayMeasure u < replayMeasure t at this
    refine ⟨hst.limited hm', hst.inBounds hc' hb', ?_⟩
    simp only [List.length_append, List.length_singleton]
    omega

end

/-- The call has passed its start step and not yet returned. -/
def ReplayPc.started : ReplayPc → Bool
  | .entry _ | .start | .done _ => false
  | _ => true

theorem ReplayStep.running {B : Build} {D : DriverModel} {pc pc' : ReplayPc}
    {ctx ctx' : Tcpreplay} {l : ReplayLabel} (h : ReplayStep B D (pc, ctx) l (pc', ctx'))
    (hr : ctx.running = pc.started) : ctx'.running = pc'.started := by
  cases h <;> first | rfl | exact hr

def ReplayPc.pastStart : ReplayPc → Bool
  | .entry _ | .start => false
  | _ => true

theorem ReplayRun.clock_free {B : Build} {D : DriverModel} {s0 t : ReplayPc × Tcpreplay}
    {ls : List ReplayLabel} (hr : ReplayRun B D s0 ls t) (hs : s0.1.pastStart) :
    t.1.pastStart ∧ ∀ e, ReplayLabel.clock e ∉ ls := by
  induction hr with
  | refl => exact ⟨hs, by simp⟩
  | @tail t u ls l _ hst ih =>
    obtain ⟨hp, hcl⟩ := ih
    have hu : u.1.pastStart ∧ ∀ e, l ≠ .clock e := by
      cases hst <;> first | exact absurd hp Bool.false_ne_true | exact ⟨rfl, fun _ h => by cases h⟩
    exact ⟨hu.1, fun e he => (List.mem_append.mp he).elim (hcl e)
      fun h => hu.2 e (List.mem_singleton.mp h).symm⟩

def anyDriver : DriverModel := fun _ _ _ _ => True

/-- Drivers that can return a code of at least 0, whatever they are asked. -/
def DriverModel.CanSucceed (D : DriverModel) : Prop := ∀ c i k, ∃ r, D c i k r ∧ 0 ≤ r.rcode

theorem anyDriver_canSucceed : anyDriver.CanSucceed :=
  fun c _ _ => ⟨⟨0, c.stats, 0, 0, c.options.fileCache, none⟩, trivial, Int.le_refl 0⟩

/-- Every slot from `lo` to `source_cnt` holds a `type` the switch of `tcpreplay_replay` knows. -/
def Tcpreplay.TypedFrom (B : Build) (ctx : Tcpreplay) (lo : Int) : Prop :=
  ∀ j, lo ≤ j → j < ctx.options.sourceCnt → (B.sourceType (ctx.options.sources j).type).isSome

section
variable {B : Build} {D : DriverModel}

theorem ReplayRun.append {s t u : ReplayPc × Tcpreplay} {ls ls' : List ReplayLabel}
    (h : ReplayRun B D s ls t) (h' : ReplayRun B D t ls' u) : ReplayRun B D s (ls ++ ls') u := by
  induction h' with
  | refl => simpa using h
  | tail _ hst ih => simpa using ih.tail hst

theorem ReplayRun.nil_eq {s t : ReplayPc × Tcpreplay} {ls : List ReplayLabel}
    (h : ReplayRun B D s ls t) (hl : ls = []) : s = t := by
  cases h with
  | refl => rfl
  | tail => simp at hl

theorem ReplayRun.cons_iff {s u : ReplayPc × Tcpreplay} {l : ReplayLabel}
    {ls : List ReplayLabel} :
    ReplayRun B D s (l :: ls) u ↔ ∃ t, ReplayStep B D s l t ∧ ReplayRun B D t ls u := by
  constructor
  · intro h
    generalize hl : l :: ls = ls0 at h
    induction h generalizing l ls with
    | refl => cases hl
    | @tail t u xs x hr hst ih =>
      cases xs with
      | nil =>
        obtain ⟨rfl, rfl⟩ : l = x ∧ ls = [] := by simpa using hl
        exact ⟨u, (hr.nil_eq rfl) ▸ hst, .refl _⟩
      | cons y ys =>
        obtain ⟨rfl, rfl⟩ : l = y ∧ ls = ys ++ [x] := by simpa using hl
        obtain ⟨t', h1, h2⟩ := ih rfl
        exact ⟨t', h1, h2.tail hst⟩
  · rintro ⟨t, hst, hr⟩
    simpa using ((ReplayRun.refl s).tail hst).append hr

theorem ReplayRun.from_done {r : Int} {ctx : Tcpreplay} {ls : List ReplayLabel}
    {t : ReplayPc × Tcpreplay} (h : ReplayRun B D (.done r, ctx) ls t) :
    ls = [] ∧ t = (.done r, ctx) := by
  induction h with
  | refl => exact ⟨rfl, rfl⟩
  | tail _ hst ih => obtain ⟨-, rfl⟩ := ih; cases hst

theorem ReplayRun.enterPass (ctx : Tcpreplay) {idx : Int}
    (hi : 0 ≤ idx ∧ idx ≤ ctx.options.sourceCnt) (t : Timeval) :
    ∃ ls f ctx', ReplayRun B D (.entry idx, ctx) ls (.sourceTest f, ctx') ∧
      ctx'.options.sources = ctx.options.sources ∧
      ctx'.options.sourceCnt = ctx.options.sourceCnt ∧ ctx'.currentSource = 0 := by
  have hi' : ¬(idx < 0 ∨ idx > ctx.options.sourceCnt) := by omega
  by_cases hl : 0 < ctx.options.loop
  · exact ⟨_, _, _, (ReplayRun.refl _).tail (.goodIndex hi')
      |>.tail (@ReplayStep.startLimited _ _ _ t hl)
      |>.tail (.nextPass (UInt32.ne_zero_of_pos hl)), rfl, rfl, rfl⟩
  · exact ⟨_, _, _, (ReplayRun.refl _).tail (.goodIndex hi')
      |>.tail (@ReplayStep.startForever _ _ _ t hl), rfl, rfl, rfl⟩

/-- From the source test, over typed slots and with drivers that can succeed, the call reaches the
source test `n` slots further. -/
theorem ReplayRun.restOfPass (hD : D.CanSucceed) {f : Bool} {ctx : Tcpreplay}
    (hty : ctx.TypedFrom B ctx.currentSource) (n : Nat)
    (hn : ctx.currentSource + n ≤ ctx.options.sourceCnt) :
    ∃ ls ctx', ReplayRun B D (.sourceTest f, ctx) ls (.sourceTest f, ctx') ∧
      ctx'.options.sources = ctx.options.sources ∧
      ctx'.options.sourceCnt = ctx.options.sourceCnt ∧ ctx'.options.loop = ctx.options.loop ∧
      ctx'.currentSource = ctx.currentSource + n := by
  induction n with
  | zero => exact ⟨[], ctx, .refl _, rfl, rfl, rfl, by simp⟩
  | succ n ih =>
    obtain ⟨ls, c, hr, hs, hc, hl, hj⟩ := ih (by omega)
    have hlt : c.currentSource < c.options.sourceCnt := by omega
    obtain ⟨k, hk⟩ := Option.isSome_iff_exists.mp (hty c.currentSource (by omega) (by omega))
    obtain ⟨r, hd, hr0⟩ := hD c.resetMarkers c.currentSource k
    refine ⟨_, _, hr.tail (.nextSource hlt)
      |>.tail (.callDriver (by rw [Tcpreplay.slotType, hs]; exact hk))
      |>.tail (.driverReturns hd) |>.tail (.succeeded (by omega)), hs, hc, hl, ?_⟩
    change c.currentSource + 1 = _
    omega

/-- From the loop test, over typed slots and with drivers that can succeed, the call makes every
pass left and returns 0. -/
theorem ReplayRun.passesToEnd (hD : D.CanSucceed) {ctx : Tcpreplay}
    (hc : 0 ≤ ctx.options.sourceCnt) (hty : ctx.TypedFrom B 0) :
    ∃ ls ctx', ReplayRun B D (.loopTest, ctx) ls (.done 0, ctx') ∧ ctx'.running = false := by
  generalize hm : ctx.options.loop.toNat = m
  induction m generalizing ctx with
  | zero =>
    exact ⟨_, _, (ReplayRun.refl _).tail (.lastPass (UInt32.eq_zero_iff_toNat.mpr hm))
      |>.tail .finished, rfl⟩
  | succ m ih =>
    have hL : ctx.options.loop ≠ 0 := UInt32.eq_zero_iff_toNat.not.mpr (by omega)
    obtain ⟨ls, c, hr, hs, hn, hl, hj⟩ := @ReplayRun.restOfPass B D hD false
      { ctx.decLoop with currentSource := 0 } hty ctx.options.sourceCnt.toNat
      (by dsimp only [Tcpreplay.decLoop]; omega)
    have hend : ¬ c.currentSource < c.options.sourceCnt := by
      rw [hj, hn]; dsimp only [Tcpreplay.decLoop]; omega
    have hm' : c.options.loop.toNat = m := by
      rw [hl]; dsimp only [Tcpreplay.decLoop]; rw [UInt32.toNat_pred hL]; omega
    obtain ⟨ls', c', hr', hrun⟩ := ih (hn ▸ hc) (fun j h0 hj => hs ▸ hty j h0 (hn ▸ hj)) hm'
    exact ⟨_, _, ((ReplayRun.refl _).tail (.nextPass hL)).append hr |>.tail (.endPass hend)
      |>.append hr', hrun⟩
end

end TcpreplayApi
