import TcpreplayApi.Passes
import TcpreplayApi.Abort

/-! The branch of `tcpreplay_replay` for `loop = 0`: passes one after another without a test,
left only through a failed driver or a slot of unknown type. -/
namespace TcpreplayApi

/-- The worker stands in the loop under `while (1)`. -/
def ReplayPc.forever : ReplayPc → Bool
  | .sourceTest f | .dispatch f | .inDriver f _ | .checkRcode f _ => f
  | _ => false

/-- The same position in the loop under `while (ctx->options->loop--)`. -/
def ReplayPc.limitedTwin : ReplayPc → ReplayPc
  | .sourceTest _ => .sourceTest false
  | .dispatch _ => .dispatch false
  | .inDriver _ k => .inDriver false k
  | .checkRcode _ rc => .checkRcode false rc
  | pc => pc

section
variable (B : Build) (o : TcpreplayOpt) (s : Nat)

/-- Where a call begun with `loop = 0` can stand: inside a pass where the limited loop with one pass
more to make would stand, or returned as it returns -1. -/
def ForeverAt : ReplayPc → Tcpreplay → List (Invocation × Int) → Prop
  | .entry idx, ctx, cs => cs = [] ∧ ctx.options.loop = 0 ∧ 0 ≤ idx ∧ idx ≤ s
  | .start, ctx, cs => cs = [] ∧ ctx.options.loop = 0
  | .loopTest, _, _ | .finish, _, _ => False
  | .done r, ctx, cs => r = -1 ∧ ∃ k, PassAt B o (k + 1) s (.done r) ctx cs
  | pc, ctx, cs => pc.forever ∧ ∃ k, PassAt B o (k + 1) s pc.limitedTwin ctx cs

def ForeverInv (pc : ReplayPc) (ctx : Tcpreplay) (cs : List (Invocation × Int)) : Prop :=
  ctx.options.sources = o.sources ∧ ctx.options.sourceCnt = s ∧ ForeverAt B o s pc ctx cs

end

section
variable {B : Build} {D : DriverModel} {o : TcpreplayOpt} {s : Nat}

theorem ForeverInv.step {pc pc' : ReplayPc} {ctx ctx' : Tcpreplay} {cs : List (Invocation × Int)}
    {l : ReplayLabel} (hi : ForeverInv B o s pc ctx cs) (h : ReplayStep B D (pc, ctx) l (pc', ctx'))
    (hl : ∀ e, l ≠ .clock (.error e)) : ForeverInv B o s pc' ctx' (cs ++ l.call?.toList) := by
  obtain ⟨hsrc, hcnt, hat⟩ := hi
  have hf := h.frame
  refine ⟨hf.sources.trans hsrc, hf.sourceCnt.trans hcnt, ?_⟩
  -- inside a pass, the step is the one the limited loop takes from the twin position
  have twin : ∀ {p p' : ReplayPc} (k : Nat), PassAt B o (k + 1) s p ctx cs →
      ReplayStep B D (p, ctx) l (p', ctx') → PassAt B o (k + 1) s p' ctx' (cs ++ l.call?.toList) :=
    fun _ hp h' => (PassInv.step ⟨hsrc, hcnt, hp⟩ h' hl).2.2
  cases h with
  | badIndex hb => obtain ⟨-, -, h0, h1⟩ := hat; omega
  | goodIndex _ => obtain ⟨rfl, hL, -⟩ := hat; exact ⟨rfl, hL⟩
  | clockFails => exact absurd rfl (hl _)
  | startLimited hp => exact absurd (hat.2 ▸ hp) (by decide)
  | startForever _ =>
    obtain ⟨rfl, hL⟩ := hat
    exact ⟨rfl, 0, rfl, 0, 0, by simp [Tcpreplay.startRun, hL], fun h => absurd h (Nat.lt_irrefl 0),
      rfl, Nat.zero_le _, fun _ h => absurd h (Nat.not_lt_zero _), rfl, by simp [AllOk], rfl⟩
  | nextPass _ | lastPass _ | finished => exact hat.elim
  | endPass _ => exact absurd hat.1 (by decide)
  | restartPass hge =>
    obtain ⟨-, k, -, k', j, hk, -, hj, hjs, hv, hcs, hok, hr⟩ := hat
    obtain rfl : j = s := by omega
    exact ⟨rfl, k + 1, rfl, k' + 1, 0, by dsimp only; omega, fun _ => hv, rfl, Nat.zero_le _,
      fun _ h => absurd h (Nat.not_lt_zero _), by simpa [← callsUpTo_pass] using hcs,
      by simpa using hok, hr⟩
  | nextSource hlt => obtain ⟨rfl, k, hp⟩ := hat; exact ⟨rfl, k, twin k hp (.nextSource hlt)⟩
  | callDriver hkd => obtain ⟨rfl, k, hp⟩ := hat; exact ⟨rfl, k, twin k hp (.callDriver hkd)⟩
  | badType hkd =>
    -- not a twin step: the forever copy of the switch reports line 879, the limited one 848
    obtain ⟨rfl, k, -, k', j, hk, hv0, hj, hjs, hv, hcs, hok, hr⟩ := hat
    simp only [Tcpreplay.slotType, hsrc, hj] at hkd
    obtain rfl := SlotsValid.first_pass hv0 hjs hkd
    exact ⟨rfl, k, rfl, 0, j, hk, hv0, hj, hjs, hr,
      .inr ⟨rfl, rfl, hv, hkd, by simpa using hcs, by simpa using hok⟩⟩
  | driverReturns hd => obtain ⟨rfl, k, hp⟩ := hat; exact ⟨rfl, k, twin k hp (.driverReturns hd)⟩
  | succeeded hrc => obtain ⟨rfl, k, hp⟩ := hat; exact ⟨rfl, k, twin k hp (.succeeded hrc)⟩
  | failed hrc => obtain ⟨rfl, k, hp⟩ := hat; exact ⟨rfl, k, twin k hp (.failed hrc)⟩

theorem ForeverInv.run {s0 t : ReplayPc × Tcpreplay} {ls : List ReplayLabel}
    (hr : ReplayRun B D s0 ls t) (hi : ForeverInv B o s s0.1 s0.2 [])
    (hcl : ∀ e, ReplayLabel.clock (.error e) ∉ ls) : ForeverInv B o s t.1 t.2 (calls ls) := by
  induction hr with
  | refl => exact hi
  | tail _ hst ih =>
    rw [calls_snoc]
    exact (ih fun e he => hcl e (List.mem_append_left _ he)).step hst
      fun e he => hcl e (by simp [he])

theorem ForeverAt.prefix_ok {pc : ReplayPc} {ctx : Tcpreplay} {cs : List (Invocation × Int)}
    (h : ForeverAt B o s pc ctx cs) :
    (∃ k, cs.map (·.1) <+: callsUpTo B o s k 0) ∧ AllOk cs.dropLast := by
  cases pc with
  | entry _ | start => obtain ⟨rfl, -⟩ := h; exact ⟨⟨0, by simp⟩, by simp [AllOk]⟩
  | loopTest | finish => exact h.elim
  | _ => obtain ⟨-, k, hp⟩ := h; exact ⟨⟨_, hp.prefix_ok.1⟩, hp.prefix_ok.2⟩

end

/-- A call with `loop = 0`, whatever its drivers return, calls them as a prefix of passes one after
another, and never returns 0: it returns -1 only right after a failed driver or at the first slot of
unknown type, in the first pass. -/
theorem replay_forever_passes {B : Build} {D : DriverModel} {ctx ctx' : Tcpreplay} {s : Nat}
    {idx : Int} {ls : List ReplayLabel} {pc : ReplayPc} (hloop : ctx.options.loop = 0)
    (hs : ctx.options.sourceCnt = s) (hidx : 0 ≤ idx ∧ idx ≤ s)
    (hclock : ∀ e, ReplayLabel.clock (.error e) ∉ ls)
    (hr : ReplayRun B D (.entry idx, ctx) ls (pc, ctx')) :
    (∃ k, (calls ls).map (·.1) <+: callsUpTo B ctx.options s k 0) ∧ AllOk (calls ls).dropLast ∧
    ∀ r, pc = .done r → r = -1 ∧ ctx'.running = false ∧
      ((∃ cs p, calls ls = cs ++ [p] ∧ p.2 < 0) ∨
        ∃ j < s, SlotsValid B ctx.options j ∧ B.sourceType (ctx.options.sources j).type = none ∧
          (calls ls).map (·.1) = passCalls B ctx.options j) := by
  obtain ⟨-, -, hat⟩ := ForeverInv.run hr ⟨rfl, hs, rfl, hloop, hidx⟩ hclock
  refine ⟨hat.prefix_ok.1, hat.prefix_ok.2, ?_⟩
  rintro r rfl
  obtain ⟨rfl, k, hrun, -, ⟨h0, -⟩ | ⟨-, ⟨cs, p, hcs, hp, -⟩ | ⟨j, hj, hv, hkd, hcs, -⟩⟩⟩ := hat
  · exact absurd h0 (by decide)
  · exact ⟨rfl, hrun, .inl ⟨cs, p, hcs, hp⟩⟩
  · exact ⟨rfl, hrun, .inr ⟨j, hj, hv, hkd, hcs⟩⟩

theorem replay_forever_passes_two_files :
    ∃ ls ctx', ReplayRun linuxBuild anyDriver (.entry 0, (tcpreplaySetLoop twoFileContext 0).2) ls
      (.done (-1), ctx') ∧ ctx'.running = false ∧ (calls ls).map (·.1.index) = [0, 1, 0] := by
  have hr := (@ReplayRun.refl linuxBuild anyDriver
      (.entry 0, (tcpreplaySetLoop twoFileContext 0).2))
    |>.tail (.goodIndex (by decide))
    |>.tail (@ReplayStep.startForever _ _ _ {} (by decide))
    |>.tail (.nextSource (by decide)) |>.tail (.callDriver rfl)
    |>.tail (@ReplayStep.driverReturns _ anyDriver _ _ _ ⟨0, {}, 0, 0, fun _ => {}, none⟩ trivial)
    |>.tail (.succeeded (by decide))
    |>.tail (.nextSource (by decide)) |>.tail (.callDriver rfl)
    |>.tail (@ReplayStep.driverReturns _ anyDriver _ _ _ ⟨0, {}, 0, 0, fun _ => {}, none⟩ trivial)
    |>.tail (.succeeded (by decide))
    |>.tail (.restartPass (by decide))
    |>.tail (.nextSource (by decide)) |>.tail (.callDriver rfl)
    |>.tail (@ReplayStep.driverReturns _ anyDriver _ _ _ ⟨-1, {}, 0, 0, fun _ => {}, none⟩ trivial)
    |>.tail (.failed (by decide))
  exact ⟨_, _, hr, ((replay_forever_passes (s := 2) rfl rfl ⟨Int.le_refl 0, by decide⟩
    (by simp) hr).2.2 _ rfl).2.1, rfl⟩

section
variable {B : Build} {D : DriverModel}

theorem Tcpreplay.typedFrom_congr {ctx ctx' : Tcpreplay} {lo : Int}
    (hs : ctx'.options.sources = ctx.options.sources)
    (hn : ctx'.options.sourceCnt = ctx.options.sourceCnt) :
    ctx'.TypedFrom B lo ↔ ctx.TypedFrom B lo := by
  simp only [Tcpreplay.TypedFrom, hs, hn]

theorem ReplayStep.staysForever {pc pc' : ReplayPc} {ctx ctx' : Tcpreplay} {l : ReplayLabel}
    (h : ReplayStep B D (pc, ctx) l (pc', ctx')) (hf : pc.forever)
    (hok : ∀ rc, pc = .checkRcode true rc → 0 ≤ rc) (hb : pc.InBounds ctx)
    (hty : ctx.TypedFrom B 0) (hD : ∀ i k r, D ctx i k r → 0 ≤ r.rcode) :
    pc'.forever ∧ ∀ rc, pc' = .checkRcode true rc → 0 ≤ rc := by
  cases h with
  | nextSource _ | restartPass _ | callDriver _ | succeeded _ => exact ⟨hf, fun _ h => by cases h⟩
  | badType hk =>
    have ht := hty _ hb.1 hb.2
    rw [← Tcpreplay.slotType, hk] at ht
    exact absurd ht (by decide)
  | driverReturns hd => exact ⟨hf, fun _ h => by cases h; exact hD _ _ _ hd⟩
  | failed hrc =>
    obtain rfl : _ = true := hf
    exact absurd (hok _ rfl) (by omega)
  | _ => simp [ReplayPc.forever] at hf

/-- A worker in the forever loop over a typed table, short of a failed return code, with `abort`
set. -/
def ForeverAborted (B : Build) (s : Session) : Prop :=
  ∃ pc, s.worker = some pc ∧ pc.forever ∧ (∀ rc, pc = .checkRcode true rc → 0 ≤ rc) ∧
    s.ctx.abort ∧ s.ctx.TypedFrom B 0

variable {s t : Session} {l : SessionLabel} {ls : List SessionLabel} {pc : ReplayPc}

theorem SessionStep.foreverAborted (hq : ∀ c i k r, c.abort → D c i k r → 0 ≤ r.rcode)
    (hi : TableInv s) (hl : ForeverAborted B s) (h : SessionStep B D s l t) :
    ForeverAborted B t ∧ ∀ r, l ≠ .ret r := by
  obtain ⟨pc, hw, hf, hok, ha, hty⟩ := hl
  cases h with
  | call ho hc =>
    have ho' := (ApiCall.run_observer (ho.resolve_right (by simp [hw])) hc).2.options
    exact ⟨⟨pc, hw, hf, hok, ApiCall.run_abort hc ha,
      (Tcpreplay.typedFrom_congr (congrArg (·.sources) ho') (congrArg (·.sourceCnt) ho')).mpr hty⟩,
      fun _ h => by cases h⟩
  | replay hn => simp [hw] at hn
  | work hpc hst =>
    cases hw.symm.trans hpc
    obtain ⟨hf', hok'⟩ := hst.staysForever hf hok (hi.worker _ hw) hty fun i k r => hq _ i k r ha
    exact ⟨⟨_, rfl, hf', hok', hst.frame.abort ▸ ha,
      (Tcpreplay.typedFrom_congr hst.frame.sources hst.frame.sourceCnt).mpr hty⟩,
      fun _ h => by cases h⟩
  | ret hd => cases hw.symm.trans hd; simp [ReplayPc.forever] at hf

theorem SessionRun.foreverAborted (hq : ∀ c i k r, c.abort → D c i k r → 0 ≤ r.rcode)
    (hs : Reach B D s) (hl : ForeverAborted B s) (hr : SessionRun B D s ls t) :
    ForeverAborted B t ∧ ∀ r, SessionLabel.ret r ∉ ls := by
  induction hr with
  | refl => exact ⟨hl, by simp⟩
  | tail hr' hst ih =>
    obtain ⟨hl', hne⟩ := hst.foreverAborted hq (hs.run hr').tableInv ih.1
    exact ⟨hl', fun r hm => (List.mem_append.mp hm).elim (ih.2 r)
      fun h => hne r (List.mem_singleton.mp h).symm⟩

/-- `tcpreplay_abort` does not end a call with `loop = 0`: with drivers that return at least 0 once
`abort` is set, the worker never returns and can always step, in any interleaving with observer
calls. -/
theorem abort_never_ends_forever_replay (hq : ∀ c i k r, c.abort → D c i k r → 0 ≤ r.rcode)
    (hs : Reach B D s) (hw : s.worker = some pc) (hf : pc.forever)
    (hok : ∀ rc, pc = .checkRcode true rc → 0 ≤ rc) (ha : s.ctx.abort)
    (hty : s.ctx.TypedFrom B 0) (hr : SessionRun B D s ls t) :
    (∀ r, SessionLabel.ret r ∉ ls) ∧ ∃ pc', t.worker = some pc' ∧ pc'.forever ∧
      ((∀ c i k, ∃ r, D c i k r) → ∃ l u, ReplayStep B D (pc', t.ctx) l u) := by
  obtain ⟨⟨pc', hw', hf', -⟩, hn⟩ := hr.foreverAborted hq hs ⟨pc, hw, hf, hok, ha, hty⟩
  exact ⟨hn, pc', hw', hf', fun hex =>
    ReplayStep.progress hex pc' t.ctx fun r h => by simp [h, ReplayPc.forever] at hf'⟩

end

theorem abort_never_ends_forever_replay_one_file :
    ∃ s, Reach zeroBasedBuild quietDriver s ∧ s.ctx.abort ∧ s.worker = some (.sourceTest true) ∧
      ∀ ls t, SessionRun zeroBasedBuild quietDriver s ls t → ∀ r, SessionLabel.ret r ∉ ls := by
  have hr := (@SessionRun.refl zeroBasedBuild quietDriver (Session.init zeroBasedBuild none))
    |>.call (.addPcapfile "a.pcap") (.inr rfl) rfl
    |>.call (.setLoop 0) (.inr rfl) rfl
    |>.replay 0 rfl
    |>.tail (.work rfl (.goodIndex (by decide)))
    |>.tail (.work rfl (@ReplayStep.startForever _ _ _ {} (by decide)))
    |>.call .abort (.inl rfl) rfl
  refine ⟨_, ⟨none, _, hr⟩, rfl, rfl, fun ls t h => (abort_never_ends_forever_replay
    (fun c _ _ r _ (hr : r = quietRun c) => hr ▸ Int.le_refl 0) ⟨none, _, hr⟩ rfl rfl
    (fun _ h => by cases h) rfl (fun j h0 hj => ?_) h).1⟩
  obtain rfl : j = 0 := by change j < 1 at hj; omega
  decide

end TcpreplayApi
