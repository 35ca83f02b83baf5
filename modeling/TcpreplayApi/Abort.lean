import TcpreplayApi.Invariants
import TcpreplayApi.Passes

/-! What `tcpreplay_abort` does to a running `tcpreplay_replay`, and what one call of
`tcpreplay_replay` leaves to the next: neither loop tests `abort`, and nothing clears it. -/
namespace TcpreplayApi

/-- A driver run that sends nothing and returns 0, as the per-packet abort check of replay.c makes
it once `abort` is set. -/
def quietRun (c : Tcpreplay) : DriverRun :=
  ⟨0, c.stats, c.cacheByte, c.cacheBit, c.options.fileCache, c.errstr⟩

def quietDriver : DriverModel := fun c _ _ r => r = quietRun c

def SessionLabel.isWork : SessionLabel → Bool
  | .work _ => true
  | _ => false

section
variable {B : Build} {D : DriverModel} {pc pc' : ReplayPc} {ctx ctx' : Tcpreplay}
  {l : ReplayLabel}

theorem ObserverFrame.limited (ho : ObserverFrame ctx ctx') :
    pc.Limited ctx' ↔ pc.Limited ctx := by
  cases pc <;> simp only [ReplayPc.Limited, ho.options]

theorem ObserverFrame.measure (ho : ObserverFrame ctx ctx') :
    replayMeasure (pc, ctx') = replayMeasure (pc, ctx) := by
  simp only [replayMeasure, ho.options, ho.currentSource]

end

section
variable {B : Build} {D : DriverModel} {s t : Session} {l : SessionLabel} {ls : List SessionLabel}
  {pc : ReplayPc}

theorem SessionStep.call_observed {c : ApiCall} (h : SessionStep B D s (.call c) t)
    (hw : s.worker = some pc) : t.worker = s.worker ∧ ObserverFrame s.ctx t.ctx := by
  cases h with
  | call ho hc =>
    have hobs : c.isObserver := ho.resolve_right (by simp [hw])
    exact ⟨rfl, (ApiCall.run_observer hobs hc).2⟩

theorem SessionRun.limited (hs : Reach B D s) (hw : s.worker = some pc) (hm : pc.Limited s.ctx)
    (hr : SessionRun B D s ls t) (hret : ∀ r, SessionLabel.ret r ∉ ls) :
    ∃ pc', t.worker = some pc' ∧ pc'.Limited t.ctx ∧
      ls.countP SessionLabel.isWork + replayMeasure (pc', t.ctx) ≤ replayMeasure (pc, s.ctx) := by
  induction hr with
  | refl => exact ⟨pc, hw, hm, by simp⟩
  | @tail t u ls l hr' hst ih =>
    obtain ⟨pc', hw', hm', hle⟩ := ih fun r h => hret r (List.mem_append_left _ h)
    have hi := (hs.run hr').tableInv
    cases l with
    | call c =>
      obtain ⟨hwu, ho⟩ := hst.call_observed hw'
      refine ⟨pc', hwu.trans hw', ho.limited.mpr hm', ?_⟩
      simpa [ho.measure, SessionLabel.isWork] using hle
    | work l =>
      cases hst with
      | work hpc hstep =>
        cases hw'.symm.trans hpc
        have hlt := hstep.measure_lt hm' (hi.worker _ hw')
        refine ⟨_, rfl, hstep.limited hm', ?_⟩
        simp only [List.countP_append, SessionLabel.isWork, List.countP_singleton, ite_true]
        omega
    | replay idx => cases hst with | replay h => simp [hw'] at h
    | ret r => exact absurd (List.mem_append_right _ (List.mem_singleton_self _)) (hret r)

/-- Neither loop tests `abort`. In the limited loop the worker's steps stay within `replayMeasure`
whatever observer calls come between, and from the loop test with `abort` set it still has a run
that makes every pass it has left. -/
theorem abort_stops_no_loop (hs : Reach B D s) (hw : s.worker = some pc) (hm : pc.Limited s.ctx) :
    (∀ ls t, SessionRun B D s ls t → (∀ r, SessionLabel.ret r ∉ ls) → ∃ pc', t.worker = some pc' ∧
      ls.countP SessionLabel.isWork + replayMeasure (pc', t.ctx) ≤ replayMeasure (pc, s.ctx) ∧
      ((∀ c i k, ∃ r, D c i k r) → (∀ r, pc' ≠ .done r) →
        ∃ l u, ReplayStep B D (pc', t.ctx) l u)) ∧
    (s.ctx.abort → pc = .loopTest → D.CanSucceed → s.ctx.TypedFrom B 0 →
      ∃ ws ctx', SessionRun B D s (ws.map .work) ⟨s.statics, ctx', some (.done 0)⟩ ∧ ctx'.abort ∧
        (calls ws).map (·.1) =
          callsUpTo B s.ctx.options s.ctx.options.sourceCnt.toNat s.ctx.options.loop.toNat 0 ∧
        (calls ws).length = s.ctx.options.loop.toNat * s.ctx.options.sourceCnt.toNat) := by
  refine ⟨fun ls t hr hret => ?_, ?_⟩
  · obtain ⟨pc', hw', -, hle⟩ := hr.limited hs hw hm hret
    exact ⟨pc', hw', hle, fun hex hd => ReplayStep.progress hex pc' t.ctx hd⟩
  rintro ha rfl hD hty
  have hc := hs.tableInv.cnt_nonneg
  have hrun : s.ctx.running := by have := hs.runningInv; rwa [RunningInv, hw] at this
  obtain ⟨ws, c, hr, -⟩ := ReplayRun.passesToEnd hD hc hty
  have hsr := SessionRun.ofWorker hr hw rfl
  obtain ⟨-, -, hat⟩ := PassInv.run hr ⟨rfl, (Int.toNat_of_nonneg hc).symm, 0, Nat.zero_add _,
    fun h => absurd h (Nat.lt_irrefl 0), rfl, by simp [AllOk], hrun⟩
    fun e => (hr.clock_free rfl).2 (.error e)
  obtain ⟨-, -, ⟨-, -, hcs, -⟩ | ⟨h, -⟩⟩ := hat
  · refine ⟨ws, c, hsr, hsr.inv (fun u => u.ctx.abort) (fun ha h => h.abort ha) ha, hcs, ?_⟩
    rw [← List.length_map _ (·.1), hcs, callsUpTo_length hty.slotsValid]
  · exact absurd h (by decide)

/-- Where the worker stands once the limited loop is over. -/
def ReplayPc.wrapped : ReplayPc → Bool
  | .finish => true
  | .done r => r == 0
  | _ => false

/-- `options->loop` is 2^32 - 1 wherever a worker stands past the limited loop. -/
def LoopWrapped (s : Session) : Prop :=
  ∀ pc, s.worker = some pc → pc.wrapped → s.ctx.options.loop = 4294967295

theorem ReplayStep.loop_wrapped {pc pc' : ReplayPc} {ctx ctx' : Tcpreplay} {l : ReplayLabel}
    (h : ReplayStep B D (pc, ctx) l (pc', ctx'))
    (hw : pc.wrapped → ctx.options.loop = 4294967295) (hw' : pc'.wrapped) :
    ctx'.options.loop = 4294967295 := by
  cases h with
  | lastPass hL => simp only [Tcpreplay.decLoop, hL]; decide
  | finished => exact hw rfl
  | _ => simp [ReplayPc.wrapped] at hw'

theorem LoopWrapped.step (hi : LoopWrapped s) (h : SessionStep B D s l t) : LoopWrapped t := by
  intro pc hw hwr
  cases h with
  | call ho hc =>
    have hw' : s.worker = some pc := hw
    have hobs : _ := ho.resolve_right (by simp [hw'])
    exact (ApiCall.run_observer hobs hc).2.options ▸ hi pc hw' hwr
  | replay _ => cases hw; simp [ReplayPc.wrapped] at hwr
  | work hpc hst => cases hw; exact hst.loop_wrapped (hi _ hpc) hwr
  | ret _ => cases hw

end

/-- With `loop` 2 and one file, an abort after the first pass is followed by the second pass and a
new driver call. -/
theorem abort_between_passes_next_pass_runs :
    ∃ s ls t, Reach zeroBasedBuild quietDriver s ∧ s.ctx.abort ∧ s.worker = some .loopTest ∧
      SessionRun zeroBasedBuild quietDriver s ls t ∧ ∃ inv r, SessionLabel.work (.driver inv r) ∈ ls := by
  have h0 := (@SessionRun.refl zeroBasedBuild quietDriver (Session.init zeroBasedBuild none))
    |>.call (.addPcapfile "a.pcap") (.inr rfl) rfl
    |>.call (.setLoop 2) (.inr rfl) rfl
    |>.replay 0 rfl
    |>.tail (.work rfl (.goodIndex (by decide)))
    |>.tail (.work rfl (@ReplayStep.startLimited _ _ _ {} (by decide)))
    |>.tail (.work rfl (.nextPass (by decide)))
    |>.tail (.work rfl (.nextSource (by decide)))
    |>.tail (.work rfl (@ReplayStep.callDriver _ _ _ _ .sourceFilename (by decide)))
    |>.tail (.work rfl (.driverReturns rfl))
    |>.tail (.work rfl (.succeeded (by decide)))
    |>.tail (.work rfl (.endPass (by decide)))
    |>.call .abort (.inl rfl) rfl
  exact ⟨_, _, _, ⟨none, _, h0⟩, rfl, rfl, (SessionRun.refl _)
    |>.tail (.work rfl (.nextPass (by decide)))
    |>.tail (.work rfl (.nextSource (by decide)))
    |>.tail (.work rfl (@ReplayStep.callDriver _ _ _ _ .sourceFilename (by decide)))
    |>.tail (.work rfl (.driverReturns rfl)), _, _,
    List.mem_append_right _ (List.mem_singleton_self _)⟩

theorem abort_stops_no_loop_two_passes :
    ∃ s, Reach zeroBasedBuild quietDriver s ∧ s.ctx.abort ∧ s.worker = some .loopTest ∧
      ∃ ws ctx', SessionRun zeroBasedBuild quietDriver s (ws.map .work)
        ⟨s.statics, ctx', some (.done 0)⟩ ∧ (calls ws).length = 2 := by
  have hr := (@SessionRun.refl zeroBasedBuild quietDriver (Session.init zeroBasedBuild none))
    |>.call (.addPcapfile "a.pcap") (.inr rfl) rfl
    |>.call (.setLoop 2) (.inr rfl) rfl
    |>.replay 0 rfl
    |>.tail (.work rfl (.goodIndex (by decide)))
    |>.tail (.work rfl (@ReplayStep.startLimited _ _ _ {} (by decide)))
    |>.call .abort (.inl rfl) rfl
  obtain ⟨ws, c, hw, -, -, hlen⟩ := (abort_stops_no_loop ⟨none, _, hr⟩ rfl trivial).2 rfl rfl
    (fun c _ _ => ⟨quietRun c, rfl, Int.le_refl 0⟩) fun j h0 hj => by
      obtain rfl : j = 0 := by change j < 1 at hj; omega
      decide
  exact ⟨_, ⟨none, _, hr⟩, rfl, rfl, ws, c, hw, hlen.trans rfl⟩

/-- `suspend` after a step labelled `l`: `tcpreplay_suspend` sets it and `tcpreplay_restart` clears
it. -/
def SessionLabel.suspendAfter (b : Bool) : SessionLabel → Bool
  | .call .suspend => true
  | .call .restart => false
  | _ => b

def suspendAfter (b : Bool) (ls : List SessionLabel) : Bool :=
  ls.foldl (fun b l => l.suspendAfter b) b

@[simp] theorem suspendAfter_snoc (b : Bool) (ls : List SessionLabel) (l : SessionLabel) :
    suspendAfter b (ls ++ [l]) = l.suspendAfter (suspendAfter b ls) := by
  simp [suspendAfter]

section
variable {B : Build} {D : DriverModel} {s t : Session} {l : SessionLabel} {ls : List SessionLabel}

theorem ApiCall.run_suspend {c : ApiCall} {st st' : DltStatics} {ctx ctx' : Tcpreplay}
    (h : c.run B st ctx = some (st', ctx')) :
    ctx'.suspend = (SessionLabel.call c).suspendAfter ctx.suspend := by
  cases c with
  | setInterface intf v a =>
    obtain rfl : ctx' = (tcpreplaySetInterface st ctx intf v a).2.2 :=
      (congrArg Prod.snd (Option.some.inj h)).symm
    have hw := tcpreplaySetInterface_writes st ctx intf v a
    dsimp only at hw
    exact (congrArg Tcpreplay.suspend hw).trans rfl
  | postArgs o a =>
    obtain ⟨⟨r, c'⟩, hp, he⟩ := Option.map_eq_some'.mp h
    cases he
    exact (congrArg Tcpreplay.suspend (tcpreplayPostArgs_writes hp)).trans rfl
  | addPcapfile _ | setTcpprepCache _ | setManualCallback _ =>
    cases h
    simp only [tcpreplayAddPcapfile, tcpreplaySetTcpprepCache, tcpreplaySetManualCallback]
    split_ifs <;> rfl
  | _ => cases h; rfl

theorem SessionStep.suspend (h : SessionStep B D s l t) :
    t.ctx.suspend = l.suspendAfter s.ctx.suspend := by
  cases h with
  | call _ hc => exact ApiCall.run_suspend hc
  | work _ hst => exact hst.frame.suspend
  | replay _ | ret _ => rfl

/-- `tcpreplay_is_suspended` reports the last call of `tcpreplay_suspend` or `tcpreplay_restart`,
whatever came between. -/
theorem is_suspended_follows_last_call (h : SessionRun B D s ls t) :
    tcpreplayIsSuspended t.ctx = suspendAfter (tcpreplayIsSuspended s.ctx) ls := by
  induction h with
  | refl => rfl
  | tail _ hst ih => rw [suspendAfter_snoc, ← ih]; exact hst.suspend

end

end TcpreplayApi
