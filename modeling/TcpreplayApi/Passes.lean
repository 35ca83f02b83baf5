import Mathlib.Data.List.Basic
import TcpreplayApi.Replay

/-! One call of `tcpreplay_replay` with `loop ≥ 1`, driver by driver: the passes it makes, where
it stops, and what it returns. -/
namespace TcpreplayApi

def ReplayLabel.call? : ReplayLabel → Option (Invocation × Int)
  | .driver inv r => some (inv, r.rcode)
  | _ => none

@[simp] theorem ReplayLabel.call?_tau : ReplayLabel.tau.call? = none := rfl

@[simp] theorem ReplayLabel.call?_clock (t : Except String Timeval) :
    (ReplayLabel.clock t).call? = none := rfl

@[simp] theorem ReplayLabel.call?_driver (inv : Invocation) (r : DriverRun) :
    (ReplayLabel.driver inv r).call? = some (inv, r.rcode) := rfl

/-- The driver calls of a run, each with the value it returned. -/
def calls (ls : List ReplayLabel) : List (Invocation × Int) :=
  ls.filterMap ReplayLabel.call?

@[simp] theorem calls_nil : calls [] = [] := rfl

@[simp] theorem calls_snoc (ls : List ReplayLabel) (l : ReplayLabel) :
    calls (ls ++ [l]) = calls ls ++ l.call?.toList := by
  cases h : l.call? <;> simp [calls, h]

/-- The call the worker makes for slot `i`: the driver its `type` selects, with the routing cursor
cleared and `running` set; `none` where the switch takes `default`. -/
def slotCall (B : Build) (o : TcpreplayOpt) (i : Nat) : Option Invocation :=
  (B.sourceType (o.sources i).type).map fun k => ⟨k, i, 0, 0, true⟩

/-- The driver calls of one pass over the slots below `j`. -/
def passCalls (B : Build) (o : TcpreplayOpt) (j : Nat) : List Invocation :=
  (List.range j).filterMap (slotCall B o)

/-- `k` whole passes over `s` slots, then the slots below `j` of the next pass. -/
def callsUpTo (B : Build) (o : TcpreplayOpt) (s k j : Nat) : List Invocation :=
  (List.replicate k (passCalls B o s)).flatten ++ passCalls B o j

/-- Every slot below `j` has a type the switch knows. -/
def SlotsValid (B : Build) (o : TcpreplayOpt) (j : Nat) : Prop :=
  ∀ i < j, B.sourceType (o.sources i).type ≠ none

def AllOk (cs : List (Invocation × Int)) : Prop := ∀ p ∈ cs, 0 ≤ p.2

section
variable {B : Build} {o : TcpreplayOpt} {s k j n : Nat}

@[simp] theorem passCalls_zero : passCalls B o 0 = [] := rfl

@[simp] theorem callsUpTo_zero_left : callsUpTo B o s 0 j = passCalls B o j := by
  simp [callsUpTo]

theorem callsUpTo_pass : callsUpTo B o s k s = callsUpTo B o s (k + 1) 0 := by
  simp [callsUpTo, List.replicate_succ', passCalls]

theorem callsUpTo_slot {kd : TcpreplaySourceType}
    (h : B.sourceType (o.sources j).type = some kd) :
    callsUpTo B o s k (j + 1) = callsUpTo B o s k j ++ [⟨kd, j, 0, 0, true⟩] := by
  simp [callsUpTo, passCalls, List.range_succ, slotCall, h]

theorem callsUpTo_prefix (hk : k < n) (hj : j ≤ s) :
    callsUpTo B o s k j <+: callsUpTo B o s n 0 := by
  obtain ⟨m, rfl⟩ : ∃ m, n = k + 1 + m := ⟨n - k - 1, by omega⟩
  have hp : passCalls B o j <+: passCalls B o s := by
    obtain ⟨d, rfl⟩ : ∃ d, s = j + d := ⟨s - j, by omega⟩
    rw [passCalls, passCalls, List.range_add]
    exact (List.prefix_append _ _).filterMap _
  simp only [callsUpTo, List.replicate_add, List.flatten_append, List.append_nil,
    List.append_assoc, List.prefix_append_right_inj]
  exact hp.trans (by simp)

theorem SlotsValid.succ (hv : SlotsValid B o j) (h : B.sourceType (o.sources j).type ≠ none) :
    SlotsValid B o (j + 1) := by
  intro i hi
  rcases Nat.lt_succ_iff_lt_or_eq.mp hi with hi | rfl
  · exact hv i hi
  · exact h

theorem passCalls_length (hv : SlotsValid B o j) : (passCalls B o j).length = j := by
  induction j with
  | zero => rfl
  | succ j ih =>
    obtain ⟨kd, hkd⟩ := Option.ne_none_iff_exists'.mp (hv j (Nat.lt_succ_self j))
    rw [passCalls, List.range_succ, List.filterMap_append, List.length_append, ← passCalls,
      ih fun i hi => hv i (Nat.lt_succ_of_lt hi)]
    simp [slotCall, hkd]

theorem callsUpTo_length (hv : SlotsValid B o s) : (callsUpTo B o s k 0).length = k * s := by
  induction k with
  | zero => simp
  | succ k ih =>
    rw [← callsUpTo_pass]
    simp only [callsUpTo, List.length_append, passCalls_length hv, passCalls_zero,
      List.length_nil] at ih ⊢
    rw [Nat.succ_mul]
    omega

theorem Tcpreplay.TypedFrom.slotsValid {ctx : Tcpreplay} (hty : ctx.TypedFrom B 0) :
    SlotsValid B ctx.options ctx.options.sourceCnt.toNat := fun i hi h =>
  absurd (hty i (Int.natCast_nonneg i) (by omega)) (by simp [h])

theorem AllOk.append {cs cs' : List (Invocation × Int)} (h : AllOk cs) (h' : AllOk cs') :
    AllOk (cs ++ cs') := by
  intro p hp
  rcases List.mem_append.mp hp with hp | hp
  exacts [h p hp, h' p hp]

end

section
variable (B : Build) (o : TcpreplayOpt) (n s : Nat)

/-- Where a call begun on `o`, with `loop = n` and `s` slots, can stand after the driver calls `cs`:
`k` passes done and, inside the next, at slot `j`. -/
def PassAt : ReplayPc → Tcpreplay → List (Invocation × Int) → Prop
  | .entry idx, ctx, cs => cs = [] ∧ ctx.options.loop.toNat = n ∧ 0 < n ∧ 0 ≤ idx ∧ idx ≤ s
  | .start, ctx, cs => cs = [] ∧ ctx.options.loop.toNat = n ∧ 0 < n
  | .loopTest, ctx, cs => ∃ k, k + ctx.options.loop.toNat = n ∧ (0 < k → SlotsValid B o s) ∧
      cs.map (·.1) = callsUpTo B o s k 0 ∧ AllOk cs ∧ ctx.running
  | .sourceTest f, ctx, cs => f = false ∧ ∃ k j : Nat, k + 1 + ctx.options.loop.toNat = n ∧
      (0 < k → SlotsValid B o s) ∧ ctx.currentSource = j ∧ j ≤ s ∧ SlotsValid B o j ∧
      cs.map (·.1) = callsUpTo B o s k j ∧ AllOk cs ∧ ctx.running
  | .dispatch f, ctx, cs => f = false ∧ ∃ k j : Nat, k + 1 + ctx.options.loop.toNat = n ∧
      (0 < k → SlotsValid B o s) ∧ ctx.currentSource = j ∧ j < s ∧ SlotsValid B o j ∧
      cs.map (·.1) = callsUpTo B o s k j ∧ AllOk cs ∧ ctx.running
  | .inDriver f kd, ctx, cs => f = false ∧ ∃ k j : Nat, k + 1 + ctx.options.loop.toNat = n ∧
      (0 < k → SlotsValid B o s) ∧ ctx.currentSource = j ∧ j < s ∧ SlotsValid B o j ∧
      B.sourceType (o.sources j).type = some kd ∧ ctx.cacheByte = 0 ∧ ctx.cacheBit = 0 ∧
      cs.map (·.1) = callsUpTo B o s k j ∧ AllOk cs ∧ ctx.running
  | .checkRcode f rc, ctx, cs => f = false ∧ ∃ k j : Nat, k + 1 + ctx.options.loop.toNat = n ∧
      (0 < k → SlotsValid B o s) ∧ ctx.currentSource = j ∧ j < s ∧ ctx.running ∧
      ((SlotsValid B o (j + 1) ∧ cs.map (·.1) = callsUpTo B o s k (j + 1) ∧
          ∃ cs' inv, cs = cs' ++ [(inv, rc)] ∧ AllOk cs') ∨
        (rc = -1 ∧ k = 0 ∧ SlotsValid B o j ∧ B.sourceType (o.sources j).type = none ∧
          cs.map (·.1) = passCalls B o j ∧ AllOk cs))
  | .finish, ctx, cs => (0 < n → SlotsValid B o s) ∧ cs.map (·.1) = callsUpTo B o s n 0 ∧
      AllOk cs ∧ ctx.running
  | .done r, ctx, cs => ctx.running = false ∧ cs.map (·.1) <+: callsUpTo B o s n 0 ∧
      ((r = 0 ∧ (0 < n → SlotsValid B o s) ∧ cs.map (·.1) = callsUpTo B o s n 0 ∧ AllOk cs) ∨
        (r = -1 ∧ ((∃ cs' p, cs = cs' ++ [p] ∧ p.2 < 0 ∧ AllOk cs') ∨
          ∃ j < s, SlotsValid B o j ∧ B.sourceType (o.sources j).type = none ∧
            cs.map (·.1) = passCalls B o j ∧ AllOk cs)))

def PassInv (pc : ReplayPc) (ctx : Tcpreplay) (cs : List (Invocation × Int)) : Prop :=
  ctx.options.sources = o.sources ∧ ctx.options.sourceCnt = s ∧ PassAt B o n s pc ctx cs

end

section
variable {B : Build} {o : TcpreplayOpt} {n s : Nat}

theorem SlotsValid.first_pass {k j : Nat} (hv : 0 < k → SlotsValid B o s) (hjs : j < s)
    (hkd : B.sourceType (o.sources j).type = none) : k = 0 :=
  Nat.eq_zero_of_not_pos fun hk => hv hk j hjs hkd

theorem PassInv.step {D : DriverModel} {pc pc' : ReplayPc} {ctx ctx' : Tcpreplay}
    {cs : List (Invocation × Int)} {l : ReplayLabel} (hi : PassInv B o n s pc ctx cs)
    (h : ReplayStep B D (pc, ctx) l (pc', ctx')) (hl : ∀ e, l ≠ .clock (.error e)) :
    PassInv B o n s pc' ctx' (cs ++ l.call?.toList) := by
  obtain ⟨hsrc, hcnt, hat⟩ := hi
  have hf := h.frame
  refine ⟨hf.sources.trans hsrc, hf.sourceCnt.trans hcnt, ?_⟩
  cases h with
  | badIndex hb => obtain ⟨-, -, -, h0, h1⟩ := hat; omega
  | goodIndex _ => obtain ⟨rfl, hL, hn, -⟩ := hat; exact ⟨rfl, hL, hn⟩
  | clockFails => exact absurd rfl (hl _)
  | startLimited _ =>
    obtain ⟨rfl, hL, -⟩ := hat
    exact ⟨0, by simpa [Tcpreplay.startRun] using hL, fun h => absurd h (Nat.lt_irrefl 0), rfl,
      by simp [AllOk], rfl⟩
  | startForever hz =>
    obtain ⟨-, hL, hn⟩ := hat
    exact absurd (UInt32.pos_iff_toNat_pos.mpr (by omega)) hz
  | nextPass hL =>
    obtain ⟨k, hk, hv, hcs, hok, hr⟩ := hat
    refine ⟨rfl, k, 0, ?_, hv, rfl, Nat.zero_le _, fun _ h => absurd h (Nat.not_lt_zero _),
      by simpa using hcs, by simpa using hok, hr⟩
    have := UInt32.eq_zero_iff_toNat.not.mp hL
    simp only [Tcpreplay.decLoop, UInt32.toNat_pred hL]
    omega
  | lastPass hL =>
    obtain ⟨k, hk, hv, hcs, hok, hr⟩ := hat
    rw [UInt32.eq_zero_iff_toNat.mp hL, Nat.add_zero] at hk
    subst hk
    exact ⟨hv, by simpa using hcs, by simpa using hok, hr⟩
  | nextSource hlt =>
    obtain ⟨rfl, k, j, hk, hv0, hj, -, hv, hcs, hok, hr⟩ := hat
    exact ⟨rfl, k, j, hk, hv0, hj, by omega, hv, by simpa using hcs, by simpa using hok, hr⟩
  | endPass hge =>
    obtain ⟨-, k, j, hk, -, hj, hjs, hv, hcs, hok, hr⟩ := hat
    obtain rfl : j = s := by omega
    exact ⟨k + 1, by omega, fun _ => hv, by simpa [callsUpTo_pass] using hcs, by simpa using hok,
      hr⟩
  | restartPass _ => exact absurd hat.1 (by decide)
  | callDriver hkd =>
    obtain ⟨rfl, k, j, hk, hv0, hj, hjs, hv, hcs, hok, hr⟩ := hat
    simp only [Tcpreplay.slotType, hsrc, hj] at hkd
    exact ⟨rfl, k, j, hk, hv0, hj, hjs, hv, hkd, rfl, rfl, by simpa using hcs, by simpa using hok,
      hr⟩
  | badType hkd =>
    obtain ⟨rfl, k, j, hk, hv0, hj, hjs, hv, hcs, hok, hr⟩ := hat
    simp only [Tcpreplay.slotType, hsrc, hj] at hkd
    obtain rfl := SlotsValid.first_pass hv0 hjs hkd
    exact ⟨rfl, 0, j, hk, hv0, hj, hjs, hr,
      .inr ⟨rfl, rfl, hv, hkd, by simpa using hcs, by simpa using hok⟩⟩
  | driverReturns _ =>
    obtain ⟨rfl, k, j, hk, hv0, hj, hjs, hv, hkd, hb, hbit, hcs, hok, hr⟩ := hat
    refine ⟨rfl, k, j, hk, hv0, hj, hjs, hr, .inl ⟨hv.succ (by simp [hkd]), ?_, cs, _, rfl, hok⟩⟩
    simp [hcs, callsUpTo_slot hkd, Tcpreplay.invocation, hj, hb, hbit, hr]
  | failed hrc =>
    obtain ⟨rfl, k, j, hk, -, -, hjs, -, hc⟩ := hat
    simp only [ReplayLabel.call?_tau, Option.toList_none, List.append_nil]
    rcases hc with ⟨-, hcs, cs', inv, rfl, hok⟩ | ⟨-, rfl, hv, hkd, hcs, hok⟩
    · exact ⟨rfl, hcs ▸ callsUpTo_prefix (by omega) hjs, .inr ⟨rfl, .inl ⟨cs', _, rfl, hrc, hok⟩⟩⟩
    · exact ⟨rfl, hcs ▸ callsUpTo_zero_left ▸ callsUpTo_prefix (by omega) hjs.le,
        .inr ⟨rfl, .inr ⟨j, hjs, hv, hkd, hcs, hok⟩⟩⟩
  | succeeded hrc =>
    obtain ⟨rfl, k, j, hk, hv0, hj, hjs, hr, hc⟩ := hat
    rcases hc with ⟨hv, hcs, cs', inv, rfl, hok⟩ | ⟨rfl, -⟩
    · refine ⟨rfl, k, j + 1, hk, hv0, by simp [hj], hjs, hv, by simpa using hcs, ?_, hr⟩
      simpa using hok.append (by simp [AllOk]; omega)
    · exact absurd (by decide) hrc
  | finished =>
    obtain ⟨hv, hcs, hok, -⟩ := hat
    simp only [ReplayLabel.call?_tau, Option.toList_none, List.append_nil]
    exact ⟨rfl, hcs ▸ List.prefix_refl _, .inl ⟨rfl, hv, hcs, hok⟩⟩

theorem PassInv.run {D : DriverModel} {s0 t : ReplayPc × Tcpreplay}
    {ls : List ReplayLabel} (hr : ReplayRun B D s0 ls t) (hi : PassInv B o n s s0.1 s0.2 [])
    (hcl : ∀ e, ReplayLabel.clock (.error e) ∉ ls) : PassInv B o n s t.1 t.2 (calls ls) := by
  induction hr with
  | refl => exact hi
  | tail _ hst ih =>
    rw [calls_snoc]
    exact (ih fun e he => hcl e (List.mem_append_left _ he)).step hst
      fun e he => hcl e (by simp [he])

theorem PassAt.prefix_ok {pc : ReplayPc} {ctx : Tcpreplay} {cs : List (Invocation × Int)}
    (h : PassAt B o n s pc ctx cs) :
    cs.map (·.1) <+: callsUpTo B o s n 0 ∧ AllOk cs.dropLast := by
  have drop : ∀ {cs : List (Invocation × Int)}, AllOk cs → AllOk cs.dropLast :=
    fun hok p hp => hok p (List.dropLast_subset _ hp)
  cases pc with
  | entry _ | start => obtain ⟨rfl, -⟩ := h; simp [AllOk]
  | loopTest =>
    obtain ⟨k, hk, -, hcs, hok, -⟩ := h
    rcases Nat.eq_zero_or_pos (n - k) with h0 | h0
    · obtain rfl : k = n := by omega
      exact ⟨hcs ▸ List.prefix_refl _, drop hok⟩
    · exact ⟨hcs ▸ callsUpTo_prefix (by omega) (Nat.zero_le _), drop hok⟩
  | sourceTest _ | dispatch _ =>
    obtain ⟨-, k, j, hk, -, -, hj, -, hcs, hok, -⟩ := h
    exact ⟨hcs ▸ callsUpTo_prefix (by omega) (by omega), drop hok⟩
  | inDriver _ _ =>
    obtain ⟨-, k, j, hk, -, -, hj, -, -, -, -, hcs, hok, -⟩ := h
    exact ⟨hcs ▸ callsUpTo_prefix (by omega) hj.le, drop hok⟩
  | checkRcode _ _ =>
    obtain ⟨-, k, j, hk, -, -, hj, -, ⟨-, hcs, cs', _, rfl, hok⟩ | ⟨-, rfl, -, -, hcs, hok⟩⟩ := h
    · exact ⟨hcs ▸ callsUpTo_prefix (by omega) hj, by simpa using hok⟩
    · exact ⟨hcs ▸ callsUpTo_zero_left ▸ callsUpTo_prefix (by omega) hj.le, drop hok⟩
  | finish => obtain ⟨-, hcs, hok, -⟩ := h; exact ⟨hcs ▸ List.prefix_refl _, drop hok⟩
  | done _ =>
    obtain ⟨-, hpre, ⟨-, -, -, hok⟩ | ⟨-, ⟨cs', p, rfl, -, hok⟩ | ⟨_, _, _, _, _, hok⟩⟩⟩ := h
    exacts [⟨hpre, drop hok⟩, ⟨hpre, by simpa using hok⟩, ⟨hpre, drop hok⟩]

end

/-- A call with `loop = n ≥ 1`, whatever its drivers return, calls them as a prefix of `n` identical
passes and stops within `n (4 s + 2) + 4` steps. It returns 0 only after the `n` passes over a typed
table, and -1 right after a failed driver or at the first slot of unknown type, in the first
pass. -/
theorem replay_limited_passes {B : Build} {D : DriverModel} {ctx ctx' : Tcpreplay} {s : Nat}
    {idx : Int} {ls : List ReplayLabel} {pc : ReplayPc} (hloop : 0 < ctx.options.loop)
    (hs : ctx.options.sourceCnt = s) (hidx : 0 ≤ idx ∧ idx ≤ s)
    (hclock : ∀ e, ReplayLabel.clock (.error e) ∉ ls)
    (hr : ReplayRun B D (.entry idx, ctx) ls (pc, ctx')) :
    (calls ls).map (·.1) <+: callsUpTo B ctx.options s ctx.options.loop.toNat 0 ∧
    AllOk (calls ls).dropLast ∧
    ls.length ≤ ctx.options.loop.toNat * (4 * s + 2) + 4 ∧
    ((∀ c i k, ∃ r, D c i k r) → (∀ r, pc ≠ .done r) → ∃ l u, ReplayStep B D (pc, ctx') l u) ∧
    ∀ r, pc = .done r → ctx'.running = false ∧
      ((r = 0 ∧ SlotsValid B ctx.options s ∧
          (calls ls).map (·.1) = callsUpTo B ctx.options s ctx.options.loop.toNat 0 ∧
          AllOk (calls ls)) ∨
        (r = -1 ∧ ((∃ cs p, calls ls = cs ++ [p] ∧ p.2 < 0) ∨
          ∃ j < s, SlotsValid B ctx.options j ∧ B.sourceType (ctx.options.sources j).type = none ∧
            (calls ls).map (·.1) = passCalls B ctx.options j))) := by
  have hn : 0 < ctx.options.loop.toNat := UInt32.pos_iff_toNat_pos.mp hloop
  obtain ⟨-, -, hat⟩ := PassInv.run hr ⟨rfl, hs, rfl, rfl, hn, hidx⟩ hclock
  obtain ⟨hpre, hok⟩ := hat.prefix_ok
  obtain ⟨-, -, hlen⟩ := hr.measure hloop trivial (hs ▸ Int.natCast_nonneg s)
  refine ⟨hpre, hok, ?_, fun hD h => ReplayStep.progress hD pc ctx' h, ?_⟩
  · simp only [replayMeasure, hs, Int.toNat_natCast] at hlen
    omega
  · rintro r rfl
    obtain ⟨hrun, -, ⟨rfl, hv, hcs, hok⟩ | ⟨rfl, ⟨cs, p, hcs, hp, -⟩ | ⟨j, hj, hv, hkd, hcs, -⟩⟩⟩ :=
      hat
    exacts [⟨hrun, .inl ⟨rfl, hv hn, hcs, hok⟩⟩, ⟨hrun, .inr ⟨rfl, .inl ⟨cs, p, hcs, hp⟩⟩⟩,
      ⟨hrun, .inr ⟨rfl, .inr ⟨j, hj, hv, hkd, hcs⟩⟩⟩]

/-- A context from `tcpreplay_init` whose table holds two slots typed as files. -/
def twoFileContext : Tcpreplay :=
  { tcpreplayInit linuxBuild none with
    options := { (tcpreplayInit linuxBuild none).options with
      sources := fun _ => { type := linuxBuild.sourceFilename }, sourceCnt := 2 } }

theorem twoFileContext_pass :
    ∃ ls ctx', ReplayRun linuxBuild anyDriver (.entry 0, twoFileContext) ls (.done 0, ctx') ∧
      (calls ls).map (·.1.index) = [0, 1] ∧ ∀ e, ReplayLabel.clock (.error e) ∉ ls := by
  have hr := (@ReplayRun.refl linuxBuild anyDriver (.entry 0, twoFileContext))
    |>.tail (.goodIndex (by decide))
    |>.tail (@ReplayStep.startLimited _ _ _ {} (by decide))
    |>.tail (.nextPass (by decide))
    |>.tail (.nextSource (by decide)) |>.tail (.callDriver rfl)
    |>.tail (@ReplayStep.driverReturns _ anyDriver _ _ _ ⟨0, {}, 0, 0, fun _ => {}, none⟩ trivial)
    |>.tail (.succeeded (by decide))
    |>.tail (.nextSource (by decide)) |>.tail (.callDriver rfl)
    |>.tail (@ReplayStep.driverReturns _ anyDriver _ _ _ ⟨0, {}, 0, 0, fun _ => {}, none⟩ trivial)
    |>.tail (.succeeded (by decide))
    |>.tail (.endPass (by decide))
    |>.tail (.lastPass (by decide))
    |>.tail .finished
  exact ⟨_, _, hr, rfl, by simp⟩

theorem replay_limited_passes_two_files :
    ∃ ls ctx', ReplayRun linuxBuild anyDriver (.entry 0, twoFileContext) ls (.done 0, ctx') ∧
      ctx'.running = false ∧ SlotsValid linuxBuild twoFileContext.options 2 ∧
      (calls ls).map (·.1) = callsUpTo linuxBuild twoFileContext.options 2 1 0 := by
  obtain ⟨ls, c, hr, -, hcl⟩ := twoFileContext_pass
  obtain ⟨hrun, h⟩ := (replay_limited_passes (s := 2) (by decide) rfl ⟨Int.le_refl 0, by decide⟩
    hcl hr).2.2.2.2 0 rfl
  obtain ⟨-, hv, hcs, -⟩ := h.resolve_right fun h => absurd h.1 (by decide)
  exact ⟨ls, c, hr, hrun, hv, hcs⟩

/-- With every slot typed and drivers that can succeed, a call with `loop ≥ 1` has a run that makes
all its passes, one driver call per slot in each, and returns 0. -/
theorem replay_limited_returns {B : Build} {D : DriverModel}
    (hD : D.CanSucceed) (ctx : Tcpreplay) {idx : Int} (hloop : 0 < ctx.options.loop)
    (hidx : 0 ≤ idx ∧ idx ≤ ctx.options.sourceCnt) (hty : ctx.TypedFrom B 0) (t : Timeval) :
    ∃ ls ctx', ReplayRun B D (.entry idx, ctx) ls (.done 0, ctx') ∧ ctx'.running = false ∧
      (calls ls).map (·.1) =
        callsUpTo B ctx.options ctx.options.sourceCnt.toNat ctx.options.loop.toNat 0 ∧
      (calls ls).length = ctx.options.loop.toNat * ctx.options.sourceCnt.toNat := by
  have hi : ¬(idx < 0 ∨ idx > ctx.options.sourceCnt) := by omega
  have hc : 0 ≤ ctx.options.sourceCnt := by omega
  obtain ⟨ls, c, hr, hrun⟩ := @ReplayRun.passesToEnd B D hD (ctx.startRun t) hc hty
  have hr' := ((ReplayRun.refl _).tail (.goodIndex hi)
    |>.tail (@ReplayStep.startLimited _ _ _ t hloop)).append hr
  have hcl := (hr.clock_free rfl).2
  obtain ⟨-, -, hat⟩ := PassInv.run hr' ⟨rfl, (Int.toNat_of_nonneg hc).symm, rfl, rfl,
    UInt32.pos_iff_toNat_pos.mp hloop, by omega⟩ (by simpa using fun e => hcl (.error e))
  obtain ⟨-, -, ⟨-, -, hcs, -⟩ | ⟨h, -⟩⟩ := hat
  · refine ⟨_, _, hr', hrun, hcs, ?_⟩
    rw [← List.length_map _ (·.1), hcs, callsUpTo_length hty.slotsValid]
  · exact absurd h (by decide)

theorem replay_limited_returns_two_passes :
    ∃ ls ctx', ReplayRun linuxBuild anyDriver (.entry 0, (tcpreplaySetLoop twoFileContext 2).2) ls
      (.done 0, ctx') ∧ ctx'.running = false ∧ (calls ls).length = 4 := by
  obtain ⟨ls, c, hr, hrun, -, hlen⟩ := @replay_limited_returns linuxBuild anyDriver
    anyDriver_canSucceed (tcpreplaySetLoop twoFileContext 2).2 0 (by decide) (by decide)
    (fun _ _ _ => rfl) {}
  exact ⟨ls, c, hr, hrun, hlen⟩

/-- The slot `tcpreplay_add_pcapfile` fills keeps `type` 0, none of the three kinds, and stops the
call with -1 although no driver failed. -/
theorem replay_unknown_type_fails :
    ∃ ls ctx', ReplayRun linuxBuild anyDriver
      (.entry 0, (tcpreplayAddPcapfile (tcpreplayInit linuxBuild none) "a.pcap").2) ls
      (.done (-1), ctx') ∧ calls ls = [] ∧ ∀ e, ReplayLabel.clock (.error e) ∉ ls := by
  have hr := (@ReplayRun.refl linuxBuild anyDriver
      (.entry 0, (tcpreplayAddPcapfile (tcpreplayInit linuxBuild none) "a.pcap").2))
    |>.tail (.goodIndex (by decide))
    |>.tail (@ReplayStep.startLimited linuxBuild anyDriver _ {} (by decide))
    |>.tail (.nextPass (by decide))
    |>.tail (.nextSource (by decide))
    |>.tail (.badType (by decide))
    |>.tail (.failed (by decide))
  exact ⟨_, _, hr, rfl, by simp⟩

/-- On two slots typed as files, `tcpreplay_replay` rejects the index -1, accepts the index 2, one
past the table, and on the index 0 calls the driver for slot 0 and then for slot 1. -/
theorem replay_index_minus_one_rejected_others_ignored :
    (∀ l t, ReplayStep linuxBuild anyDriver (.entry (-1), twoFileContext) l t →
      t.1 = .done (-1) ∧ twoFileContext.ErrOnly t.2) ∧
    ReplayStep linuxBuild anyDriver (.entry 2, twoFileContext) .tau (.start, twoFileContext) ∧
    ∃ ls ctx', ReplayRun linuxBuild anyDriver (.entry 0, twoFileContext) ls (.done 0, ctx') ∧
      (calls ls).map (·.1.index) = [0, 1] := by
  obtain ⟨ls, c, hr, hidx, -⟩ := twoFileContext_pass
  refine ⟨fun l t h => ?_, ReplayStep.entry_iff.mpr ⟨rfl, (if_neg (by decide)).symm⟩, ls, c, hr,
    hidx⟩
  obtain ⟨-, rfl⟩ := ReplayStep.entry_iff.mp h
  exact ⟨rfl, rfl⟩

/-- The index selects nothing: past the check every accepted index has the runs of `(start, ctx)`,
and -1 stops at the check with `errstr` its only write. -/
theorem replay_index_selects_nothing {B : Build} {D : DriverModel} (ctx : Tcpreplay) {idx : Int}
    (hi : 0 ≤ idx ∧ idx ≤ ctx.options.sourceCnt) (ls : List ReplayLabel)
    (t : ReplayPc × Tcpreplay) :
    (ReplayRun B D (.entry idx, ctx) (.tau :: ls) t ↔ ReplayRun B D (.start, ctx) ls t) ∧
    (ReplayRun B D (.entry (-1), ctx) (.tau :: ls) t →
      ls = [] ∧ t.1 = .done (-1) ∧ ctx.ErrOnly t.2) := by
  have hacc : ¬(idx < 0 ∨ idx > ctx.options.sourceCnt) := by omega
  refine ⟨⟨fun h => ?_, fun h => ReplayRun.cons_iff.mpr ⟨_, .goodIndex hacc, h⟩⟩, fun h => ?_⟩
  · obtain ⟨u, hst, hr⟩ := ReplayRun.cons_iff.mp h
    obtain ⟨-, rfl⟩ := ReplayStep.entry_iff.mp hst
    rwa [if_neg hacc] at hr
  · obtain ⟨u, hst, hr⟩ := ReplayRun.cons_iff.mp h
    obtain ⟨-, rfl⟩ := ReplayStep.entry_iff.mp hst
    rw [if_pos (.inl (by decide))] at hr
    obtain ⟨rfl, rfl⟩ := hr.from_done
    exact ⟨rfl, rfl, rfl⟩

end TcpreplayApi
