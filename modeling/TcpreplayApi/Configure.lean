import TcpreplayApi.Interface

/-! `tcpreplay_post_args` against the setter calls it stands for, made in its order on the same
answers of the environment. -/
namespace TcpreplayApi

def speedBySetters (o : AutoOpts) (ctx : Tcpreplay) : Tcpreplay :=
  if o.topspeed then (tcpreplaySetSpeedSpeed (tcpreplaySetSpeedMode ctx .speedTopspeed).2 0).2
  else match o.pps with
  | some (pps, multi) =>
    (tcpreplaySetSpeedPpsMulti (tcpreplaySetSpeedSpeed
      (tcpreplaySetSpeedMode ctx .speedPacketrate).2 pps).2 multi).2
  | none =>
    if o.oneatatime then (tcpreplaySetSpeedSpeed (tcpreplaySetSpeedMode ctx .speedOneatatime).2 0).2
    else match o.mbps, o.multiplier with
    | some r, _ => (tcpreplaySetSpeedSpeed (tcpreplaySetSpeedMode ctx .speedMbpsrate).2 r).2
    | none, some r => (tcpreplaySetSpeedSpeed (tcpreplaySetSpeedMode ctx .speedMultiplier).2 r).2
    | none, none => ctx

/-- The option setters, in the order `tcpreplay_post_args` sets the options. -/
def optionsBySetters (B : Build) (o : AutoOpts) (mpLoaded : Bool) (ctx : Tcpreplay) : Tcpreplay :=
  let ctx := (tcpreplaySetLoop ctx o.loop).2
  let ctx := (tcpreplaySetSleepAccel ctx o.sleepAccel).2
  let ctx := match o.limit with
    | some v => (tcpreplaySetLimitSend ctx v).2
    | none => ctx
  let ctx := speedBySetters o ctx
  let ctx := if o.enableFileCache ∧ o.loop ≠ 1 then (tcpreplaySetFileCache ctx true).2 else ctx
  let ctx := match o.timer.bind fun arg => (postArgsTimer B mpLoaded arg).1 with
    | some m => (tcpreplaySetAccurate ctx m).2
    | none => ctx
  if o.pktlen then (tcpreplaySetUsePkthdrLen ctx true).2 else ctx

/-- `tcpreplay_set_interface` for `intf1`, then for `intf2`, then `tcpreplay_set_tcpprep_cache`,
stopping at the first call that does not return 0. -/
def interfacesBySetters (o : AutoOpts) (a : PostArgsAnswers) (st : DltStatics) (ctx : Tcpreplay) :
    Int × DltStatics × Tcpreplay :=
  let r1 := tcpreplaySetInterface st ctx .intf1 o.intf1 a.intf1
  if r1.1 ≠ 0 then r1 else
  let r2 := match o.intf2 with
    | some v => tcpreplaySetInterface r1.2.1 r1.2.2 .intf2 v a.intf2
    | none => r1
  if r2.1 ≠ 0 then r2 else
  match o.cachefile with
  | some _ =>
    let r3 := tcpreplaySetTcpprepCache r2.2.2 a.readCache
    (r3.1, r2.2.1, r3.2)
  | none => r2

/-- The setter calls `tcpreplay_post_args` stands for, on the same answers of the environment. -/
def configureBySetters (B : Build) (o : AutoOpts) (a : PostArgsAnswers) (st : DltStatics)
    (ctx : Tcpreplay) : Int × DltStatics × Tcpreplay :=
  interfacesBySetters o a st (optionsBySetters B o a.mpLibraryIsLoaded ctx)

theorem speedBySetters_eq (o : AutoOpts) (ctx : Tcpreplay) :
    speedBySetters o ctx =
      { ctx with options := { ctx.options with speed := postArgsSpeed o ctx.options.speed } } := by
  unfold speedBySetters postArgsSpeed
  rcases o.pps with _ | ⟨_, _⟩ <;> dsimp only <;> split_ifs <;> try rfl
  all_goals rcases o.mbps with _ | _ <;> rcases o.multiplier with _ | _ <;> rfl

theorem optionsBySetters_eq (B : Build) (o : AutoOpts) (mp : Bool) (ctx : Tcpreplay) :
    optionsBySetters B o mp ctx = { ctx with options := { postArgsOptions o ctx.options with
      accurate := (o.timer.bind fun arg => (postArgsTimer B mp arg).1).getD ctx.options.accurate
      usePkthdrLen := if o.pktlen then true else ctx.options.usePkthdrLen } } := by
  unfold optionsBySetters postArgsOptions
  generalize o.limit = lim
  generalize o.timer.bind (fun arg => (postArgsTimer B mp arg).1) = acc
  cases lim <;> cases acc <;> split_ifs <;> simp only [speedBySetters_eq] <;> rfl

theorem interfacesBySetters_agrees {o : AutoOpts} {a : PostArgsAnswers} {w : Nat}
    {st : DltStatics} {c ctx' : Tcpreplay} {r : Int}
    (h : postArgsInterfaces o a w c = some (r, ctx')) (hr : r ≠ -1) (hst : st.int2dlt = -1)
    (hc : o.cachefile.isSome → c.options.sourceCnt ≤ 1) (W : Option TcpreplayWarn) :
    ∃ st', interfacesBySetters o a st { c with warnstr := W } =
        (0, st', { ctx' with warnstr := W }) ∧
      ctx'.intf1.map (·.dlt) = some st'.int1dlt := by
  replace hc : o.cachefile.isSome → ¬ 1 < c.options.sourceCnt := fun h => Int.not_lt.mpr (hc h)
  simp only [postArgsInterfaces, postArgsCachefile] at h
  repeat' split at h
  all_goals first | (cases h; exact absurd rfl hr) | cases h
  all_goals
    (try simp only [ne_eq, Decidable.not_not] at *)
    refine ⟨_, Prod.ext ?_ (Prod.ext rfl ?_), ?_⟩ <;>
    simp [interfacesBySetters, tcpreplaySetInterface, dltCheck, tcpreplaySetTcpprepCache, *]

theorem tcpreplayPostArgs_success {B : Build} {o : AutoOpts} {a : PostArgsAnswers}
    {ctx ctx' : Tcpreplay} {r : Int} (h : tcpreplayPostArgs B o a ctx = some (r, ctx'))
    (hr : r ≠ -1) : ∃ w W, postArgsInterfaces o a w
      { optionsBySetters B o a.mpLibraryIsLoaded ctx with warnstr := W } = some (r, ctx') := by
  rw [optionsBySetters_eq]
  simp only [tcpreplayPostArgs] at h
  rcases ht : o.timer with _ | arg
  · cases hd : (o.dbug && !B.debug) <;> cases hp : o.pktlen <;>
      simp only [hd, hp, ht, Option.bind, Bool.false_eq_true] at h ⊢ <;> exact ⟨_, _, h⟩
  · rcases hpt : postArgsTimer B a.mpLibraryIsLoaded arg with ⟨_ | m, _ | ⟨line, e⟩⟩ <;>
      cases hd : (o.dbug && !B.debug) <;> cases hp : o.pktlen <;>
      simp only [hd, hp, ht, hpt, Option.bind, Bool.false_eq_true] at h ⊢ <;>
      first | (cases h; exact absurd rfl hr) | exact ⟨_, _, h⟩

/-- Wherever `tcpreplay_post_args` returns 0 or -2, the setters it stands for return 0 and leave the
same context but for `warnstr`, and record the link type of `intf1`. -/
theorem postArgs_agrees_with_setters {B : Build} {o : AutoOpts} {a : PostArgsAnswers}
    {st : DltStatics} {ctx ctx' : Tcpreplay} {r : Int}
    (h : tcpreplayPostArgs B o a ctx = some (r, ctx')) (hr : r ≠ -1) (hst : st.int2dlt = -1)
    (hc : o.cachefile.isSome → ctx.options.sourceCnt ≤ 1) :
    ∃ st', configureBySetters B o a st ctx = (0, st', { ctx' with warnstr := ctx.warnstr }) ∧
      ctx'.intf1.map (·.dlt) = some st'.int1dlt := by
  obtain ⟨w, W, hi⟩ := tcpreplayPostArgs_success h hr
  rw [optionsBySetters_eq] at hi
  obtain ⟨st', he, hd⟩ := interfacesBySetters_agrees hi hr hst hc ctx.warnstr
  rw [configureBySetters, optionsBySetters_eq]
  exact ⟨st', he, hd⟩

/-- `--mbps 10 --timer nano --pktlen -i eth0 -I eth1 --cachefile a.cache`. -/
def twoLinkArgs : AutoOpts :=
  ⟨false, 1, 0, none, false, none, false, some 10, none, false, some "nano", true, "eth0",
    some "eth1", some "a.cache"⟩

def twoLinkAnswers : PostArgsAnswers :=
  ⟨false, ⟨some "eth0", .ok ⟨"eth0", 1, .c2s, false⟩⟩, ⟨some "eth1", .ok ⟨"eth1", 1, .s2c, false⟩⟩,
    ⟨1, [0], ""⟩⟩

theorem postArgs_agrees_with_setters_two_links :
    ∃ ctx', tcpreplayPostArgs linuxBuild twoLinkArgs twoLinkAnswers
        (tcpreplayInit linuxBuild none) = some (-2, ctx') ∧
      ∃ st', configureBySetters linuxBuild twoLinkArgs twoLinkAnswers {}
          (tcpreplayInit linuxBuild none) = (0, st', { ctx' with warnstr := none }) ∧
        ctx'.intf1.map (·.dlt) = some st'.int1dlt :=
  ⟨_, rfl, postArgs_agrees_with_setters rfl (by decide) rfl fun _ => by decide⟩

end TcpreplayApi
