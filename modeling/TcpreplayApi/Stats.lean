import TcpreplayApi.Invariants

/-! The statistics getters, called while a replay runs: what they return, and what they copy
into `static_stats`. -/
namespace TcpreplayApi

theorem statsGetters_eq (ctx : Tcpreplay) :
    tcpreplayGetStats ctx = (ctx.stats, { ctx with staticStats := ctx.stats }) ∧
    tcpreplayGetPktsSent ctx = (ctx.stats.pktsSent,
      { ctx with staticStats := { ctx.staticStats with pktsSent := ctx.stats.pktsSent } }) ∧
    tcpreplayGetBytesSent ctx = (ctx.stats.bytesSent,
      { ctx with staticStats := { ctx.staticStats with bytesSent := ctx.stats.bytesSent } }) ∧
    tcpreplayGetFailed ctx = (ctx.stats.failed,
      { ctx with staticStats := { ctx.staticStats with failed := ctx.stats.failed } }) ∧
    tcpreplayGetEndTime ctx = (ctx.stats.endTime,
      { ctx with staticStats := { ctx.staticStats with endTime := ctx.stats.endTime } }) :=
  ⟨rfl, getStat_eq (fun _ _ => rfl) ctx, getStat_eq (fun _ _ => rfl) ctx,
    getStat_eq (fun _ _ => rfl) ctx, getStat_eq (fun _ _ => rfl) ctx⟩

/-- The six statistics getters. -/
def ApiCall.isStatsGetter : ApiCall → Bool
  | .getPktsSent | .getBytesSent | .getFailed | .getStartTime | .getEndTime | .getStats => true
  | _ => false

section
variable {B : Build} {D : DriverModel}

theorem ReplayStep.staticStats {s t : ReplayPc × Tcpreplay} {l : ReplayLabel}
    (h : ReplayStep B D s l t) : t.2.staticStats = s.2.staticStats := by
  cases h <;> rfl

theorem ApiCall.run_stats {c : ApiCall} {st st' : DltStatics} {ctx ctx' : Tcpreplay}
    (h : c.run B st ctx = some (st', ctx')) :
    ctx'.stats = ctx.stats ∧ (c.isStatsGetter = false → ctx'.staticStats = ctx.staticStats) := by
  cases c with
  | setInterface intf v a =>
    obtain rfl : ctx' = (tcpreplaySetInterface st ctx intf v a).2.2 :=
      (congrArg Prod.snd (Option.some.inj h)).symm
    have hw := tcpreplaySetInterface_writes st ctx intf v a
    dsimp only at hw
    exact ⟨(congrArg Tcpreplay.stats hw).trans rfl,
      fun _ => (congrArg Tcpreplay.staticStats hw).trans rfl⟩
  | postArgs o a =>
    obtain ⟨⟨r, c'⟩, hp, he⟩ := Option.map_eq_some'.mp h
    cases he
    have hw := tcpreplayPostArgs_writes hp
    exact ⟨(congrArg Tcpreplay.stats hw).trans rfl,
      fun _ => (congrArg Tcpreplay.staticStats hw).trans rfl⟩
  | addPcapfile _ | setTcpprepCache _ | setManualCallback _ =>
    cases h
    simp only [tcpreplayAddPcapfile, tcpreplaySetTcpprepCache, tcpreplaySetManualCallback]
    split_ifs <;> exact ⟨rfl, fun _ => rfl⟩
  | _ => cases h; first | exact ⟨rfl, fun _ => rfl⟩ | exact ⟨rfl, fun hg => absurd hg (by decide)⟩

theorem SessionStep.stats {s t : Session} {l : SessionLabel} (h : SessionStep B D s l t) :
    ((∀ c, l = .call c → c.isStatsGetter = false) → t.ctx.staticStats = s.ctx.staticStats) ∧
    ((∀ l', l ≠ .work l') → t.ctx.stats = s.ctx.stats) := by
  cases h with
  | call _ hc =>
    obtain ⟨h1, h2⟩ := ApiCall.run_stats hc
    exact ⟨fun hg => h2 (hg _ rfl), fun _ => h1⟩
  | work _ hst => exact ⟨fun _ => hst.staticStats, fun hw => absurd rfl (hw _)⟩
  | replay _ | ret _ => exact ⟨fun _ => rfl, fun _ => rfl⟩

/-- Only the replay writes the live counters, and only the getters write the snapshot. -/
theorem stats_written_by_replay_snapshot_by_getters {s t : Session} {ls : List SessionLabel}
    (h : SessionRun B D s ls t) :
    ((∀ c, SessionLabel.call c ∈ ls → c.isStatsGetter = false) →
      t.ctx.staticStats = s.ctx.staticStats) ∧
    ((∀ l, SessionLabel.work l ∉ ls) → t.ctx.stats = s.ctx.stats) := by
  induction h with
  | refl => exact ⟨fun _ => rfl, fun _ => rfl⟩
  | tail _ hst ih =>
    obtain ⟨h1, h2⟩ := hst.stats
    exact ⟨fun hg => (h1 fun c hc => hg c (by simp [hc])).trans
        (ih.1 fun c hc => hg c (List.mem_append_left _ hc)),
      fun hw => (h2 fun l hl => hw l (by simp [hl])).trans
        (ih.2 fun l hl => hw l (List.mem_append_left _ hl))⟩

end

/-- A field of the statistics that a single-field getter returns and copies. -/
inductive StatField
  | pktsSent | bytesSent | failed | endTime

def StatField.Val : StatField → Type
  | .endTime => Timeval
  | _ => UInt64

def StatField.get : (f : StatField) → TcpreplayStats → f.Val
  | .pktsSent, st => st.pktsSent
  | .bytesSent, st => st.bytesSent
  | .failed, st => st.failed
  | .endTime, st => st.endTime

section
variable {B : Build} {D : DriverModel} {s t : Session} {l : SessionLabel}
  {ls : List SessionLabel} {c : ApiCall} {f : StatField}

end

def SessionLabel.work? : SessionLabel → Option ReplayLabel
  | .work l => some l
  | _ => none

section
variable {B : Build} {D : DriverModel}

theorem ReplayStep.withStaticStats {pc pc' : ReplayPc} {ctx ctx' : Tcpreplay} {l : ReplayLabel}
    (hD : ∀ c i k r v, D c i k r → D { c with staticStats := v } i k r)
    (h : ReplayStep B D (pc, ctx) l (pc', ctx')) (v : TcpreplayStats) :
    ReplayStep B D (pc, { ctx with staticStats := v }) l (pc', { ctx' with staticStats := v }) := by
  cases h with
  | driverReturns hd => exact .driverReturns (hD _ _ _ _ v hd)
  | _ => constructor <;> assumption

theorem ApiCall.run_getter {c : ApiCall} {st st' : DltStatics} {ctx ctx' : Tcpreplay}
    (hg : c.isStatsGetter) (h : c.run B st ctx = some (st', ctx')) :
    st' = st ∧ ctx' = { ctx with staticStats := ctx'.staticStats } := by
  cases c <;> simp only [ApiCall.isStatsGetter, Bool.false_eq_true] at hg <;>
    (cases h; exact ⟨rfl, rfl⟩)

/-- Statistics getters called from another thread leave the course of a replay as it was, as long as
the drivers do not read `static_stats`. -/
theorem getters_leave_replay_course {s t : Session} {ls : List SessionLabel} {pc : ReplayPc}
    (hD : ∀ c i k r v, D c i k r → D { c with staticStats := v } i k r)
    (hw : s.worker = some pc) (hr : SessionRun B D s ls t)
    (hg : ∀ c, SessionLabel.call c ∈ ls → c.isStatsGetter) (hret : ∀ r, SessionLabel.ret r ∉ ls) :
    ∃ pc', t.worker = some pc' ∧ ReplayRun B D (pc, s.ctx) (ls.filterMap SessionLabel.work?)
      (pc', { t.ctx with staticStats := s.ctx.staticStats }) := by
  induction hr with
  | refl => exact ⟨pc, hw, .refl _⟩
  | @tail t u ls l _ hst ih =>
    obtain ⟨pc1, hw1, hr1⟩ := ih (fun c hc => hg c (List.mem_append_left _ hc))
      (fun r hr => hret r (List.mem_append_left _ hr))
    cases hst with
    | call _ hc =>
      obtain ⟨-, he⟩ := ApiCall.run_getter (hg _ (by simp)) hc
      refine ⟨pc1, hw1, ?_⟩
      rw [he]
      simpa [SessionLabel.work?] using hr1
    | replay h0 => simp [hw1] at h0
    | work hpc hstep =>
      cases hw1.symm.trans hpc
      simpa [SessionLabel.work?] using hr1.tail (hstep.withStaticStats hD s.ctx.staticStats)
    | ret _ => exact absurd (List.mem_append_right _ (List.mem_singleton_self _)) (hret _)

end

end TcpreplayApi
