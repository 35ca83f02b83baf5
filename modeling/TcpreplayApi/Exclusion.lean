import TcpreplayApi.Passes

/-! Two calls of `tcpreplay_replay` on one context, their steps interleaved: the entry never
reads `running`, so both run and share `options->loop` and `current_source`. -/
namespace TcpreplayApi

/-- One step of either of two calls of `tcpreplay_replay` on the same context. -/
inductive PairStep (B : Build) (D : DriverModel) :
    ReplayPc × ReplayPc × Tcpreplay → ReplayLabel → ReplayPc × ReplayPc × Tcpreplay → Prop
  | left {p p' q : ReplayPc} {ctx ctx' : Tcpreplay} {l : ReplayLabel} :
      ReplayStep B D (p, ctx) l (p', ctx') → PairStep B D (p, q, ctx) l (p', q, ctx')
  | right {p q q' : ReplayPc} {ctx ctx' : Tcpreplay} {l : ReplayLabel} :
      ReplayStep B D (q, ctx) l (q', ctx') → PairStep B D (p, q, ctx) l (p, q', ctx')

inductive PairRun (B : Build) (D : DriverModel) :
    ReplayPc × ReplayPc × Tcpreplay → List ReplayLabel → ReplayPc × ReplayPc × Tcpreplay → Prop
  | refl (s : ReplayPc × ReplayPc × Tcpreplay) : PairRun B D s [] s
  | tail {s t u : ReplayPc × ReplayPc × Tcpreplay} {ls : List ReplayLabel} {l : ReplayLabel} :
      PairRun B D s ls t → PairStep B D t l u → PairRun B D s (ls ++ [l]) u

/-- `tcpreplay_replay` does not exclude a second call: two calls on any context can both pass their
start step, the second after the first has set `running`, and then share one loop. -/
theorem replay_pair_both_started {B : Build} {D : DriverModel} (ctx : Tcpreplay) {i j : Int}
    (hi : 0 ≤ i ∧ i ≤ ctx.options.sourceCnt) (hj : 0 ≤ j ∧ j ≤ ctx.options.sourceCnt)
    (t1 t2 : Timeval) :
    ∃ ls p q ctx', PairRun B D (.entry i, .entry j, ctx) ls (p, q, ctx') ∧
      ls = [.tau, .clock (.ok t1), .tau, .clock (.ok t2)] ∧ p.started ∧ q.started ∧ p = q ∧
      ctx'.running ∧ ctx'.stats.startTime = t2 ∧ ctx'.options = ctx.options := by
  have hi' : ¬(i < 0 ∨ i > ctx.options.sourceCnt) := by omega
  have hj' : ¬(j < 0 ∨ j > ctx.options.sourceCnt) := by omega
  by_cases hl : 0 < ctx.options.loop
  · exact ⟨_, _, _, _, (PairRun.refl _).tail (.left (.goodIndex hi'))
      |>.tail (.left (.startLimited hl)) |>.tail (.right (.goodIndex hj'))
      |>.tail (.right (.startLimited hl)), rfl, rfl, rfl, rfl, rfl, rfl, rfl⟩
  · exact ⟨_, _, _, _, (PairRun.refl _).tail (.left (.goodIndex hi'))
      |>.tail (.left (.startForever hl)) |>.tail (.right (.goodIndex hj'))
      |>.tail (.right (.startForever hl)), rfl, rfl, rfl, rfl, rfl, rfl, rfl⟩

theorem replay_pair_both_started_fresh :
    ∃ ls p q ctx', PairRun linuxBuild anyDriver
      (.entry 0, .entry 0, tcpreplayInit linuxBuild none) ls (p, q, ctx') ∧
      p.started ∧ q.started ∧ ctx'.running := by
  obtain ⟨ls, p, q, ctx', hr, -, hp, hq, -, hrun, -⟩ :=
    @replay_pair_both_started linuxBuild anyDriver (tcpreplayInit linuxBuild none) 0 0
      (by decide) (by decide) {} {}
  exact ⟨ls, p, q, ctx', hr, hp, hq, hrun⟩

/-- On a fresh context asking for one pass, the second call makes the pass, returns 0 and clears
`running` while the first runs on and finds `loop` wrapped. -/
theorem replay_pair_shares_loop :
    ∃ ls ctx', PairRun linuxBuild anyDriver (.entry 0, .entry 0, tcpreplayInit linuxBuild none) ls
      (.sourceTest false, .done 0, ctx') ∧ ctx'.running = false ∧
      ctx'.options.loop = 4294967294 := by
  have hr := (@PairRun.refl linuxBuild anyDriver
      (.entry 0, .entry 0, tcpreplayInit linuxBuild none))
    |>.tail (.left (.goodIndex (by decide)))
    |>.tail (.left (@ReplayStep.startLimited _ _ _ {} (by decide)))
    |>.tail (.right (.goodIndex (by decide)))
    |>.tail (.right (@ReplayStep.startLimited _ _ _ {} (by decide)))
    |>.tail (.left (.nextPass (by decide)))
    |>.tail (.right (.lastPass (by decide)))
    |>.tail (.right .finished)
    |>.tail (.left (.endPass (by decide)))
    |>.tail (.left (.nextPass (by decide)))
  exact ⟨_, _, hr, rfl, by decide⟩

section
variable {B : Build} {D : DriverModel}

theorem PairRun.append {s t u : ReplayPc × ReplayPc × Tcpreplay} {ls ls' : List ReplayLabel}
    (h : PairRun B D s ls t) (h' : PairRun B D t ls' u) : PairRun B D s (ls ++ ls') u := by
  induction h' with
  | refl => simpa using h
  | tail _ hst ih => simpa using ih.tail hst

theorem PairRun.ofLeft {s t : ReplayPc × Tcpreplay} {ls : List ReplayLabel}
    (h : ReplayRun B D s ls t) (q : ReplayPc) : PairRun B D (s.1, q, s.2) ls (t.1, q, t.2) := by
  induction h with
  | refl => exact .refl _
  | tail _ hst ih => exact ih.tail (.left hst)

theorem PairRun.ofRight {s t : ReplayPc × Tcpreplay} {ls : List ReplayLabel}
    (h : ReplayRun B D s ls t) (p : ReplayPc) : PairRun B D (p, s.1, s.2) ls (p, t.1, t.2) := by
  induction h with
  | refl => exact .refl _
  | tail _ hst ih => exact ih.tail (.right hst)

/-- Two calls on one typed context can interleave so that one stands at its dispatch with
`current_source` at `source_cnt`, past the table. -/
theorem replay_pair_dispatch_past_table (hD : D.CanSucceed) (ctx : Tcpreplay)
    (hn : 0 < ctx.options.sourceCnt) (hty : ctx.TypedFrom B 0) :
    ∃ ls f q ctx', PairRun B D (.entry 0, .entry 0, ctx) ls (.dispatch f, q, ctx') ∧
      ctx'.options.sources = ctx.options.sources ∧ ctx'.options.sourceCnt = ctx.options.sourceCnt ∧
      ctx'.currentSource = ctx'.options.sourceCnt ∧ ¬ (ReplayPc.dispatch f).InBounds ctx' := by
  obtain ⟨l1, f1, c1, h1, hs1, hn1, -⟩ := @ReplayRun.enterPass B D ctx 0 (by omega) {}
  obtain ⟨l2, f2, c2, h2, hs2, hn2, hz2⟩ :=
    @ReplayRun.enterPass B D c1 0 (by omega) {}
  have hlt : c2.currentSource < c2.options.sourceCnt := by omega
  obtain ⟨l3, c3, h3, hs3, hn3, -, hj3⟩ := @ReplayRun.restOfPass B D hD f1 c2
    (fun j _ hj => hs2.trans hs1 ▸ hty j (by omega) (by omega)) ctx.options.sourceCnt.toNat
    (by omega)
  have hr := (PairRun.ofRight h1 (.entry 0)).append (PairRun.ofLeft h2 (.sourceTest f1))
    |>.tail (.left (.nextSource hlt)) |>.append (PairRun.ofRight h3 (.dispatch f2))
  have hc : c3.currentSource = c3.options.sourceCnt := by omega
  exact ⟨_, f2, _, c3, hr, hs3.trans (hs2.trans hs1), hn3.trans (hn2.trans hn1), hc,
    fun hb => absurd hb.2 (by omega)⟩

end

theorem replay_pair_dispatch_past_one_slot :
    let ctx := { tcpreplayInit linuxBuild none with
      options := { (tcpreplayInit linuxBuild none).options with
        sources := fun _ => { type := 1 }, sourceCnt := 1 } }
    ∃ ls f q ctx', PairRun linuxBuild anyDriver (.entry 0, .entry 0, ctx) ls
      (.dispatch f, q, ctx') ∧ ctx'.currentSource = 1 := by
  intro ctx
  obtain ⟨ls, f, q, ctx', hr, -, hn, hc, -⟩ := @replay_pair_dispatch_past_table linuxBuild anyDriver
    (fun c _ _ => ⟨⟨0, c.stats, 0, 0, c.options.fileCache, none⟩, trivial, Int.le_refl 0⟩) ctx
    (by decide) (fun _ _ _ => rfl)
  exact ⟨ls, f, q, ctx', hr, hc.trans hn⟩

/-- The call has passed its source test and not yet moved `current_source` on. -/
def ReplayPc.midSlot : ReplayPc → Bool
  | .dispatch _ | .inDriver _ _ | .checkRcode _ _ => true
  | _ => false

def ReplayPc.inPass : ReplayPc → Bool
  | .sourceTest _ | .dispatch _ | .inDriver _ _ | .checkRcode _ _ => true
  | _ => false

theorem ReplayPc.midSlot_le_inPass (pc : ReplayPc) : pc.midSlot.toNat ≤ pc.inPass.toNat := by
  cases pc <;> exact Nat.le_of_ble_eq_true rfl

/-- What calls on one context keep of `current_source`, `mid` of them between their source test and
their increment. -/
def SharedCursor (pass mid : Nat) (ctx : Tcpreplay) : Prop :=
  0 < pass → 0 ≤ ctx.currentSource ∧ ctx.currentSource + mid ≤ ctx.options.sourceCnt + 1

def PairCursor : ReplayPc × ReplayPc × Tcpreplay → Prop
  | (p, q, ctx) => 0 ≤ ctx.options.sourceCnt ∧
      SharedCursor (p.inPass.toNat + q.inPass.toNat) (p.midSlot.toNat + q.midSlot.toNat) ctx

section
variable {B : Build} {D : DriverModel}

theorem ReplayStep.sharedCursor {pc pc' : ReplayPc} {ctx ctx' : Tcpreplay} {l : ReplayLabel}
    (h : ReplayStep B D (pc, ctx) l (pc', ctx')) (hc : 0 ≤ ctx.options.sourceCnt) {op om : Nat}
    (hop : op ≤ 1) (hom : om ≤ op)
    (hi : SharedCursor (pc.inPass.toNat + op) (pc.midSlot.toNat + om) ctx) :
    SharedCursor (pc'.inPass.toNat + op) (pc'.midSlot.toNat + om) ctx' := by
  cases h <;>
    simp only [SharedCursor, ReplayPc.inPass, ReplayPc.midSlot, Bool.toNat_true, Bool.toNat_false,
      Tcpreplay.startRun, Tcpreplay.decLoop, Tcpreplay.resetMarkers, DriverRun.apply,
      tcpreplaySeterr_currentSource, tcpreplaySeterr_options] at hi ⊢ <;>
    omega

theorem PairStep.cursor {s t : ReplayPc × ReplayPc × Tcpreplay} {l : ReplayLabel}
    (h : PairStep B D s l t) (hi : PairCursor s) : PairCursor t := by
  cases h with
  | @left p p' q _ _ _ h =>
    exact ⟨h.frame.sourceCnt ▸ hi.1, h.sharedCursor hi.1 (Bool.toNat_le _) q.midSlot_le_inPass hi.2⟩
  | @right p q q' _ _ _ h =>
    have hs := h.sharedCursor hi.1 (Bool.toNat_le _) p.midSlot_le_inPass
      (by simpa only [Nat.add_comm] using hi.2)
    exact ⟨h.frame.sourceCnt ▸ hi.1, by simpa only [Nat.add_comm] using hs⟩

theorem PairRun.cursor {s t : ReplayPc × ReplayPc × Tcpreplay} {ls : List ReplayLabel}
    (h : PairRun B D s ls t) (hi : PairCursor s) : PairCursor t := by
  induction h with
  | refl => exact hi
  | tail _ hst ih => exact hst.cursor ih

end

end TcpreplayApi
