import Mathlib.Algebra.Order.Ring.Cast
import Mathlib.Algebra.Order.Ring.Rat
import TcpreplayApi.Session

/-! Invariants of the states a process reaches from `tcpreplay_init`: bounds of the table and
the cursor, the table's contents, sealed cache slots, option bounds and the open handles. -/
namespace TcpreplayApi

/-- The table count within `MAX_FILES`, and the worker's cursor inside the table wherever it reads a
slot. -/
structure TableInv (s : Session) : Prop where
  cnt_nonneg : 0 ≤ s.ctx.options.sourceCnt
  cnt_le : s.ctx.options.sourceCnt ≤ maxFiles
  worker : ∀ pc, s.worker = some pc → pc.InBounds s.ctx

/-- A build numbering `tcpreplay_source_type` from 0, as C does without initialisers: under it the
slots `tcpreplay_add_pcapfile` fills are file sources. -/
def zeroBasedBuild : Build := { linuxBuild with sourceFilename := 0, sourceFd := 1, sourceCache := 2 }

section
variable {B : Build} {D : DriverModel} {s t : Session} {l : SessionLabel} {ls : List SessionLabel}

theorem TableInv.init (B : Build) (e : Option String) : TableInv (Session.init B e) := by
  have h0 : (tcpreplayInit B e).options.sourceCnt = 0 := (tcpreplayInit_clear B e).1
  exact ⟨h0 ▸ Int.le_refl 0, h0 ▸ by decide, fun _ h => by cases h⟩

theorem TableInv.step (hi : TableInv s) (h : SessionStep B D s l t) : TableInv t := by
  obtain ⟨h0, h1, hw⟩ := hi
  cases h with
  | call ho hc =>
    rcases ApiCall.run_cases hc with ⟨p, rfl, rfl⟩ | ⟨rfl, rfl⟩ | hf
    · have hn : s.worker = none := ho.resolve_left (by simp [ApiCall.isObserver])
      refine ⟨?_, ?_, fun pc hpc => by simp [hn] at hpc⟩ <;>
        (rw [tcpreplayAddPcapfile_sourceCnt]; split_ifs <;> omega)
    · exact ⟨h0, h1, fun pc hpc =>
        (@ReplayPc.inBounds_congr pc s.ctx (tcpreplayAbort s.ctx).2 rfl rfl).mpr (hw pc hpc)⟩
    · refine ⟨hf.sourceCnt ▸ h0, hf.sourceCnt ▸ h1, fun pc hpc => ?_⟩
      exact (ReplayPc.inBounds_congr hf.currentSource hf.sourceCnt).mpr (hw pc hpc)
  | replay _ => exact ⟨h0, h1, fun pc hpc => by cases hpc; trivial⟩
  | work hpc hst =>
    have hn := hst.frame.sourceCnt
    refine ⟨hn ▸ h0, hn ▸ h1, fun pc h => ?_⟩
    cases h
    exact hst.inBounds h0 (hw _ hpc)
  | ret _ => exact ⟨h0, h1, fun pc h => by cases h⟩

theorem Reach.tableInv (hs : Reach B D s) : TableInv s := by
  obtain ⟨e, ls, hr⟩ := hs
  exact hr.inv TableInv (fun hi h => hi.step h) (TableInv.init B e)

end

/-- `running` says whether a call of `tcpreplay_replay` stands past its start step. -/
def RunningInv (s : Session) : Prop :=
  s.ctx.running = (s.worker.map ReplayPc.started).getD false

section
variable {B : Build} {D : DriverModel} {s t : Session} {l : SessionLabel}

theorem RunningInv.step (hi : RunningInv s) (h : SessionStep B D s l t) : RunningInv t := by
  cases h with
  | call _ hc =>
    rcases ApiCall.run_cases hc with ⟨p, rfl, rfl⟩ | ⟨rfl, rfl⟩ | hf
    · exact (tcpreplayAddPcapfile_running _ _).trans hi
    · exact hi
    · exact hf.running.trans hi
  | replay hw => rw [RunningInv, hw] at hi; exact hi
  | work hw hst => rw [RunningInv, hw] at hi; exact hst.running hi
  | ret hw => rw [RunningInv, hw] at hi; exact hi

theorem Reach.runningInv (hs : Reach B D s) : RunningInv s := by
  obtain ⟨e, ls, hr⟩ := hs
  exact hr.inv RunningInv (fun hi h => hi.step h) (by cases e <;> rfl)

/-- In every state a process reaches, `tcpreplay_is_running` answers whether a call of
`tcpreplay_replay` stands past its start step. -/
theorem reach_running_iff_started (hs : Reach B D s) :
    tcpreplayIsRunning s.ctx = (s.worker.map ReplayPc.started).getD false :=
  hs.runningInv

end

theorem reach_running_after_start :
    ∃ s, Reach linuxBuild anyDriver s ∧ s.worker = some .loopTest ∧
      tcpreplayIsRunning s.ctx = true := by
  have hr := (@SessionRun.refl linuxBuild anyDriver (Session.init linuxBuild none))
    |>.replay 0 rfl
    |>.tail (.work rfl (.goodIndex (by decide)))
    |>.tail (.work rfl (@ReplayStep.startLimited _ _ _ {} (by decide)))
  exact ⟨_, ⟨none, _, hr⟩, rfl, reach_running_iff_started ⟨none, _, hr⟩⟩

/-- Drivers that write only the packet-memory cache slot of the source they replay, and only while
it is not sealed. -/
def CacheDiscipline (D : DriverModel) : Prop :=
  ∀ c i k r, D c i k r → ∀ j, (j ≠ i ∨ (c.options.fileCache j).cached) →
    r.fileCache j = c.options.fileCache j

/-- Every sealed slot of the packet-memory cache belongs to a source of the table. -/
def SealedInTable (s : Session) : Prop :=
  ∀ j, (s.ctx.options.fileCache j).cached → 0 ≤ j ∧ j < s.ctx.options.sourceCnt

section
variable {B : Build} {D : DriverModel} {s t : Session} {l : SessionLabel} {ls : List SessionLabel}

theorem SealedInTable.init (B : Build) (e : Option String) : SealedInTable (Session.init B e) :=
  fun j hj => by simp [Session.init, (tcpreplayInit_clear B e).2.2.1 j] at hj

theorem SealedInTable.step (hD : CacheDiscipline D) (hi : TableInv s) (hin : SealedInTable s)
    (h : SessionStep B D s l t) : SealedInTable t := by
  intro j hc
  cases h with
  | call _ hcall =>
    rcases ApiCall.run_cases hcall with ⟨p, rfl, rfl⟩ | ⟨rfl, rfl⟩ | hf
    · have hn := tcpreplayAddPcapfile_sourceCnt s.ctx p
      simp only [tcpreplayAddPcapfile_options] at hc
      split_ifs at hc hn with hlt
      · by_cases hj : j = s.ctx.options.sourceCnt
        · subst hj; simp at hc
        · have := hin j (by simpa [Function.update_noteq hj] using hc)
          dsimp only; omega
      · exact hn ▸ hin j hc
    · exact hin j hc
    · exact hf.sourceCnt ▸ hin j (hf.fileCache ▸ hc)
  | work hpc hst =>
    have hn := hst.frame.sourceCnt
    rcases hst.fileCache with heq | ⟨f, k, r, hk, hd, heq⟩
    · exact hn ▸ hin j (heq ▸ hc)
    · cases hk
      by_cases hj : j = s.ctx.currentSource
      · obtain ⟨h0, h1⟩ := hi.worker _ hpc
        exact hn ▸ ⟨hj ▸ h0, hj ▸ h1⟩
      · have hslot := (congrFun heq j).trans (hD _ _ _ _ hd j (.inl hj))
        exact hn ▸ hin j (hslot ▸ hc)
  | replay _ | ret _ => exact hin j hc

theorem SessionStep.sealed_slot (hD : CacheDiscipline D) (hin : SealedInTable s) {j : Int}
    (hc : (s.ctx.options.fileCache j).cached) (h : SessionStep B D s l t) :
    t.ctx.options.fileCache j = s.ctx.options.fileCache j := by
  cases h with
  | call _ hcall =>
    rcases ApiCall.run_cases hcall with ⟨p, rfl, rfl⟩ | ⟨rfl, rfl⟩ | hf
    · have hj := (hin j hc).2
      simp only [tcpreplayAddPcapfile_options]
      split_ifs
      · exact Function.update_noteq (by omega) _ _
      · rfl
    · rfl
    · exact congrFun hf.fileCache j
  | work _ hst =>
    rcases hst.fileCache with heq | ⟨f, k, r, -, hd, heq⟩
    · exact congrFun heq j
    · exact (congrFun heq j).trans (hD _ _ _ _ hd j (.inr hc))
  | replay _ | ret _ => rfl

/-- With drivers that write only the unsealed slot they replay, a sealed slot of the packet-memory
cache keeps its index, flag and records through every later step. -/
theorem reach_sealed_slot_frozen (hD : CacheDiscipline D) (hs : Reach B D s)
    (hr : SessionRun B D s ls t) {j : Int} (hc : (s.ctx.options.fileCache j).cached) :
    t.ctx.options.fileCache j = s.ctx.options.fileCache j := by
  obtain ⟨e, ls0, h0⟩ := hs
  have hi0 := h0.inv (fun u => TableInv u ∧ SealedInTable u)
    (fun hi h => ⟨hi.1.step h, hi.2.step hD hi.1 h⟩) ⟨TableInv.init B e, SealedInTable.init B e⟩
  refine (hr.inv (fun u => TableInv u ∧ SealedInTable u ∧
      u.ctx.options.fileCache j = s.ctx.options.fileCache j)
    (fun ⟨hi, hin, hj⟩ h => ⟨hi.step h, hin.step hD hi h, ?_⟩) ⟨hi0.1, hi0.2, rfl⟩).2.2
  exact (h.sealed_slot hD hin (hj ▸ hc)).trans hj

end

/-- A driver run that sends nothing, returns 0 and seals the cache slot `i` it replays. -/
def sealingRun (c : Tcpreplay) (i : Int) : DriverRun :=
  ⟨0, c.stats, c.cacheByte, c.cacheBit,
    Function.update c.options.fileCache i { c.options.fileCache i with cached := true }, c.errstr⟩

def sealingDriver : DriverModel := fun c i _ r => r = sealingRun c i

theorem sealingDriver_discipline : CacheDiscipline sealingDriver := by
  rintro c i k r rfl j hj
  by_cases h : j = i
  · subst h
    have hc := hj.resolve_left (not_not.mpr rfl)
    simp only [sealingRun, Function.update_same]
    cases hx : c.options.fileCache j
    simp only [hx] at hc
    simp [hc]
  · exact Function.update_noteq h _ _

theorem reach_sealed_slot_frozen_after_replay :
    ∃ s, Reach zeroBasedBuild sealingDriver s ∧ (s.ctx.options.fileCache 0).cached ∧
      ∀ ls t, SessionRun zeroBasedBuild sealingDriver s ls t →
        t.ctx.options.fileCache 0 = s.ctx.options.fileCache 0 := by
  have hr := (@SessionRun.refl zeroBasedBuild sealingDriver (Session.init zeroBasedBuild none))
    |>.call (.addPcapfile "a.pcap") (.inr rfl) rfl
    |>.replay 0 rfl
    |>.tail (.work rfl (.goodIndex (by decide)))
    |>.tail (.work rfl (@ReplayStep.startLimited _ _ _ {} (by decide)))
    |>.tail (.work rfl (.nextPass (by decide)))
    |>.tail (.work rfl (.nextSource (by decide)))
    |>.tail (.work rfl (@ReplayStep.callDriver _ _ _ _ .sourceFilename (by decide)))
    |>.tail (.work rfl (.driverReturns rfl))
  refine ⟨_, ⟨none, _, hr⟩, ?_, fun _ _ h =>
    reach_sealed_slot_frozen sealingDriver_discipline ⟨none, _, hr⟩ h ?_⟩ <;> decide

/-- The bounds the specification sets on the speed and the MTU. -/
def OptionBounds (o : TcpreplayOpt) : Prop := 0 ≤ o.speed.speed ∧ 64 ≤ o.mtu

def AutoOpts.SpeedsNonneg (o : AutoOpts) : Prop :=
  (∀ p, o.pps = some p → 0 ≤ p.1) ∧ (∀ r, o.mbps = some r → 0 ≤ r) ∧
    ∀ r, o.multiplier = some r → 0 ≤ r

def ApiCall.KeepsBounds : ApiCall → Prop
  | .setSpeedSpeed v => 0 ≤ v
  | .setMtu v => 64 ≤ v
  | .postArgs o _ => o.SpeedsNonneg
  | _ => True

theorem postArgsSpeed_nonneg {o : AutoOpts} {sp : TcpreplaySpeed} (ho : o.SpeedsNonneg)
    (h : 0 ≤ sp.speed) : 0 ≤ (postArgsSpeed o sp).speed := by
  obtain ⟨hp, hm, hx⟩ := ho
  unfold postArgsSpeed
  repeat' split
  all_goals first | exact le_refl _ | exact h | exact Int.cast_nonneg.mpr (hp _ ‹_›) |
    exact hm _ ‹_› | exact hx _ ‹_›

section
variable {B : Build} {D : DriverModel} {c : ApiCall} {st st' : DltStatics} {ctx ctx' : Tcpreplay}

theorem ApiCall.run_bounds (hk : c.KeepsBounds) (h : c.run B st ctx = some (st', ctx'))
    (hb : OptionBounds ctx.options) : OptionBounds ctx'.options := by
  cases c with
  | setSpeedSpeed v => cases h; exact ⟨hk, hb.2⟩
  | setMtu v => cases h; exact ⟨hb.1, hk⟩
  | postArgs o a =>
    obtain ⟨⟨r, c'⟩, hp, he⟩ := Option.map_eq_some'.mp h
    cases he
    obtain ⟨hf, hsp⟩ := tcpreplayPostArgs_frame hp
    exact ⟨hsp ▸ postArgsSpeed_nonneg hk hb.1, hf.mtu ▸ hb.2⟩
  | setInterface intf v a =>
    obtain rfl : ctx' = (tcpreplaySetInterface st ctx intf v a).2.2 :=
      (congrArg Prod.snd (Option.some.inj h)).symm
    rw [OptionBounds, (tcpreplaySetInterface_frame st ctx intf v a).1]
    exact hb
  | setTcpprepCache _ | setManualCallback _ =>
    cases h
    simp only [tcpreplaySetTcpprepCache, tcpreplaySetManualCallback]
    split_ifs <;> exact hb
  | addPcapfile p =>
    cases h; rw [OptionBounds, tcpreplayAddPcapfile_options]; split_ifs <;> exact hb
  | _ => cases h; exact hb

variable {s : Session} {l : SessionLabel} {ls : List SessionLabel}

theorem SessionStep.bounds (h : SessionStep B D s l t) (hk : ∀ c, l = .call c → c.KeepsBounds)
    (hb : OptionBounds s.ctx.options) : OptionBounds t.ctx.options := by
  cases h with
  | call _ hc => exact ApiCall.run_bounds (hk _ rfl) hc hb
  | work _ hst =>
    have hf := hst.frame.fixed
    exact ⟨congrArg (·.speed.speed) hf ▸ hb.1, congrArg (·.mtu) hf ▸ hb.2⟩
  | replay _ | ret _ => exact hb

/-- No setter refuses a value, and the bounds `speed ≥ 0` and `mtu ≥ 64` hold in every state a
process reaches only while `DEFAULT_MTU ≥ 64` and every caller passes values within them. -/
theorem setters_store_unchecked {e : Option String} (hmtu : 64 ≤ B.defaultMtu)
    (hr : SessionRun B D (Session.init B e) ls s)
    (hk : ∀ c, SessionLabel.call c ∈ ls → c.KeepsBounds) :
    OptionBounds s.ctx.options ∧
    ∀ (m : TcpreplaySpeedMode) (v : ℚ) (p mtu : Int),
      tcpreplaySetSpeedMode s.ctx m =
        (0, { s.ctx with options := { s.ctx.options with
          speed := { s.ctx.options.speed with mode := m } } }) ∧
      tcpreplaySetSpeedSpeed s.ctx v =
        (0, { s.ctx with options := { s.ctx.options with
          speed := { s.ctx.options.speed with speed := v } } }) ∧
      tcpreplaySetSpeedPpsMulti s.ctx p =
        (0, { s.ctx with options := { s.ctx.options with
          speed := { s.ctx.options.speed with ppsMulti := p } } }) ∧
      tcpreplaySetMtu s.ctx mtu = (0, { s.ctx with options := { s.ctx.options with mtu := mtu } }) := by
  refine ⟨?_, fun _ _ _ _ => ⟨rfl, rfl, rfl, rfl⟩⟩
  induction hr with
  | refl =>
    have h1 : (tcpreplayInit B e).options.speed.speed = 1 := by cases e <;> rfl
    have h2 : (tcpreplayInit B e).options.mtu = B.defaultMtu := by cases e <;> rfl
    exact ⟨h1 ▸ zero_le_one, h2 ▸ hmtu⟩
  | tail _ hst ih =>
    exact hst.bounds (fun c hc => hk c (by simp [hc]))
      (ih fun c hc => hk c (List.mem_append_left _ hc))

end

/-- `tcpreplay_set_mtu(ctx, 0)` returns 0 and leaves an MTU below 64, and
`tcpreplay_set_speed_mode(ctx, speed_packetrate)` leaves the `pps_multi` of 0 that `tcpreplay_init`
never set. -/
theorem setters_accept_out_of_bounds :
    ∃ s1 s2, SessionStep linuxBuild anyDriver (Session.init linuxBuild none)
        (.call (.setMtu 0)) s1 ∧
      (tcpreplaySetMtu (tcpreplayInit linuxBuild none) 0).1 = 0 ∧ s1.ctx.options.mtu < 64 ∧
      SessionStep linuxBuild anyDriver (Session.init linuxBuild none)
        (.call (.setSpeedMode .speedPacketrate)) s2 ∧
      s2.ctx.options.speed.mode = .speedPacketrate ∧ s2.ctx.options.speed.ppsMulti < 1 :=
  ⟨_, _, .call (.inr rfl) rfl, rfl, by decide, .call (.inr rfl) rfl, rfl, by decide⟩

theorem setters_store_unchecked_configured :
    ∃ ls s, SessionRun linuxBuild anyDriver (Session.init linuxBuild none) ls s ∧
      SessionLabel.call (.setMtu 9000) ∈ ls ∧ OptionBounds s.ctx.options ∧
      s.ctx.options.mtu = 9000 ∧ s.ctx.options.speed.speed = 10 := by
  have hr := (@SessionRun.refl linuxBuild anyDriver (Session.init linuxBuild none))
    |>.call (.setSpeedSpeed 2) (.inr rfl) rfl
    |>.call (.setMtu 9000) (.inr rfl) rfl
    |>.call (.postArgs ⟨false, 1, 0, none, false, none, false, some 10, none, false, none, false,
        "eth0", none, none⟩ ⟨false, ⟨some "eth0", .ok ⟨"eth0", 1, .c2s, false⟩⟩,
        ⟨none, .error ""⟩, ⟨0, [], ""⟩⟩) (.inr rfl) rfl
  refine ⟨_, _, hr, by simp, (setters_store_unchecked (by decide) hr fun c hc => ?_).1, rfl, rfl⟩
  simp only [List.nil_append, List.cons_append, List.mem_cons, SessionLabel.call.injEq,
    List.mem_singleton, List.not_mem_nil, or_false] at hc
  rcases hc with rfl | rfl | rfl
  · exact (by decide : (0 : ℚ) ≤ 2)
  · exact (by decide : (64 : Int) ≤ 9000)
  · exact And.intro (fun _ h => by cases h) (And.intro (fun r h => by cases h; decide)
      fun _ h => by cases h)

def ApiCall.addedFile : ApiCall → Option String
  | .addPcapfile p => some p
  | _ => none

/-- The paths of the `tcpreplay_add_pcapfile` calls of a history, in call order. -/
def addedFiles (ls : List SessionLabel) : List String :=
  ls.filterMap fun
    | .call c => c.addedFile
    | _ => none

/-- The table a history leaves: `source_cnt` counts the paths added, up to `MAX_FILES`, and slot `i`
holds the `i`-th of them with the `type` 0 of the cleared allocation. -/
def TableOf (fs : List String) (o : TcpreplayOpt) : Prop :=
  o.sourceCnt = min (fs.length : Int) maxFiles ∧
    ∀ i, o.sources i = { filename := if 0 ≤ i ∧ i < maxFiles then fs[i.toNat]? else none }

theorem addedFiles_snoc (ls : List SessionLabel) (l : SessionLabel) :
    addedFiles (ls ++ [l]) = addedFiles ls ++
      (match l with | .call c => c.addedFile | _ => none).toList := by
  simp only [addedFiles, List.filterMap_append]
  congr 1

section
variable {B : Build} {D : DriverModel} {s t : Session} {l : SessionLabel} {ls : List SessionLabel}
  {fs : List String}

theorem getElem?_append_singleton_of_ne {p : String} {m : Nat} (h : m ≠ fs.length) :
    (fs ++ [p])[m]? = fs[m]? := by
  rcases Nat.lt_or_gt_of_ne h with h | h
  · exact List.getElem?_append_left h
  · rw [List.getElem?_eq_none (by simp; omega), List.getElem?_eq_none (by omega)]

theorem TableOf.add {ctx : Tcpreplay} (h : TableOf fs ctx.options) (p : String) :
    TableOf (fs ++ [p]) (tcpreplayAddPcapfile ctx p).2.options := by
  obtain ⟨hn, hs⟩ := h
  rw [tcpreplayAddPcapfile_options]
  split_ifs with hlt
  · have hcnt : ctx.options.sourceCnt = fs.length := by omega
    refine ⟨by simp only [List.length_append, List.length_singleton]; omega, fun i => ?_⟩
    by_cases hi : i = ctx.options.sourceCnt
    · subst hi
      dsimp only
      have ht : (ctx.options.sources ctx.options.sourceCnt).type = 0 := by rw [hs]
      rw [Function.update_same, ht, if_pos ⟨by omega, hlt⟩, hcnt, Int.toNat_natCast,
        List.getElem?_concat_length]
    · dsimp only
      rw [Function.update_noteq hi, hs]
      congr 1
      split_ifs
      · exact (getElem?_append_singleton_of_ne (by omega)).symm
      · rfl
  · refine ⟨by simp only [List.length_append, List.length_singleton]; omega, fun i => ?_⟩
    rw [hs]
    congr 1
    split_ifs
    · exact (List.getElem?_append_left (by omega)).symm
    · rfl

theorem SessionStep.tableOf (h : SessionStep B D s l t)
    (hi : TableOf (addedFiles ls) s.ctx.options) :
    TableOf (addedFiles (ls ++ [l])) t.ctx.options := by
  rw [addedFiles_snoc]
  cases h with
  | @call c _ _ _ hc =>
    by_cases hadd : ∃ p, c = .addPcapfile p
    · obtain ⟨p, rfl⟩ := hadd
      cases hc
      exact hi.add p
    · have hnone : c.addedFile = none := by
        cases c <;> simp_all [ApiCall.addedFile]
      simp only [hnone, Option.toList_none, List.append_nil]
      rcases ApiCall.run_cases hc with ⟨p, rfl, -⟩ | ⟨rfl, rfl⟩ | hf
      · exact absurd ⟨p, rfl⟩ hadd
      · exact hi
      · exact ⟨hf.sourceCnt ▸ hi.1, hf.sources ▸ hi.2⟩
  | work _ hst =>
    have hf := hst.frame
    simp only [Option.toList_none, List.append_nil]
    exact ⟨hf.sourceCnt ▸ hi.1, hf.sources ▸ hi.2⟩
  | replay _ | ret _ => simpa only [Option.toList_none, List.append_nil] using hi

/-- In every state a process reaches, the table holds the paths added so far, up to `MAX_FILES`, but
no call writes a slot's `type`, which keeps the 0 of the cleared allocation. -/
theorem session_sources_untyped {e : Option String} (hr : SessionRun B D (Session.init B e) ls s) :
    s.ctx.options.sourceCnt = min ((addedFiles ls).length : Int) maxFiles ∧
    ∀ i, (s.ctx.options.sources i).filename =
        (if 0 ≤ i ∧ i < maxFiles then (addedFiles ls)[i.toNat]? else none) ∧
      (s.ctx.options.sources i).type = 0 ∧
      (B.sourceType 0 = none → B.sourceType (s.ctx.options.sources i).type = none) := by
  have h0 : TableOf [] (tcpreplayInit B e).options := by
    refine ⟨(tcpreplayInit_clear B e).1, fun i => ?_⟩
    rw [(tcpreplayInit_clear B e).2.1 i]
    split_ifs <;> rfl
  obtain ⟨hn, hs⟩ : TableOf (addedFiles ls) s.ctx.options := by
    induction hr with
    | refl => exact h0
    | tail _ hst ih => exact hst.tableOf ih
  exact ⟨hn, fun i => by rw [hs i]; exact ⟨rfl, rfl, id⟩⟩

end

theorem added_file_untyped :
    let ctx := (tcpreplayAddPcapfile (tcpreplayInit linuxBuild none) "a.pcap").2
    (ctx.options.sources 0).filename = some "a.pcap" ∧
      linuxBuild.sourceType (ctx.options.sources 0).type = none := by
  have hr := (@SessionRun.refl linuxBuild anyDriver (Session.init linuxBuild none))
    |>.call (.addPcapfile "a.pcap") (.inr rfl) rfl
  obtain ⟨h1, -, h3⟩ := (session_sources_untyped hr).2 0
  exact ⟨h1.trans (by decide), h3 (by decide)⟩

/-- `tcpreplay_set_tcpprep_cache` checks `source_cnt` only when it is called: a fresh context loads
a cache and then takes two files. -/
theorem tcpprep_cache_then_two_files :
    ∃ ls s, SessionRun linuxBuild anyDriver (Session.init linuxBuild none) ls s ∧
      s.ctx.options.cachedata.isSome ∧ s.ctx.options.sourceCnt = 2 := by
  have hr := (@SessionRun.refl linuxBuild anyDriver (Session.init linuxBuild none))
    |>.call (.setTcpprepCache ⟨1, [0], ""⟩) (.inr rfl) rfl
    |>.call (.addPcapfile "a.pcap") (.inr rfl) rfl
    |>.call (.addPcapfile "b.pcap") (.inr rfl) rfl
  exact ⟨_, _, hr, by decide, by decide⟩

/-- `get_interface` and `sendpacket_open` agree: a handle opens on the device the name resolved
to. -/
def OpenAnswer.OpensNamed (a : OpenAnswer) : Prop :=
  ∀ sp, a.opened = .ok sp → a.intname = some sp.device

def ApiCall.OpensNamed : ApiCall → Prop
  | .setInterface _ _ a => a.OpensNamed
  | .postArgs _ a => a.intf1.OpensNamed ∧ a.intf2.OpensNamed
  | _ => True

/-- Each open egress handle writes to the interface its name records. -/
def HandlesNamed (ctx : Tcpreplay) : Prop :=
  (∀ sp, ctx.intf1 = some sp → ctx.options.intf1Name = some sp.device) ∧
    ∀ sp, ctx.intf2 = some sp → ctx.options.intf2Name = some sp.device

theorem tcpreplaySetInterface_ctx (st : DltStatics) (ctx : Tcpreplay) (intf : TcpreplayIntf)
    (value : String) (a : OpenAnswer) :
    ctx.ErrOnly (tcpreplaySetInterface st ctx intf value a).2.2 ∨
      ∃ n, a.intname = some n ∧ (ctx.withIntf intf (some n) a.opened.toOption).ErrOnly
        (tcpreplaySetInterface st ctx intf value a).2.2 := by
  cases intf <;> obtain ⟨_ | n, _ | sp⟩ := a <;> simp only [tcpreplaySetInterface, dltCheck] <;>
    (try split_ifs) <;> first | exact .inl rfl | exact .inr ⟨_, rfl, rfl⟩

theorem HandlesNamed.errOnly {ctx ctx' : Tcpreplay} (h : HandlesNamed ctx) (he : ctx.ErrOnly ctx') :
    HandlesNamed ctx' := by
  rw [he]; exact h

theorem HandlesNamed.withIntf {ctx : Tcpreplay} (h : HandlesNamed ctx) {a : OpenAnswer}
    (ha : a.OpensNamed) {n : String} (hn : a.intname = some n) (intf : TcpreplayIntf) :
    HandlesNamed (ctx.withIntf intf (some n) a.opened.toOption) := by
  have hd : ∀ sp, a.opened.toOption = some sp → some n = some sp.device := fun sp hs =>
    hn ▸ ha sp (by revert hs; cases a.opened <;> simp [Except.toOption])
  cases intf
  exacts [⟨hd, h.2⟩, ⟨h.1, hd⟩]

section
variable {B : Build} {D : DriverModel} {c : ApiCall} {st st' : DltStatics} {ctx ctx' : Tcpreplay}

theorem postArgsInterfaces_handlesNamed {o : AutoOpts} {a : PostArgsAnswers} {w : Nat} {r : Int}
    (h : postArgsInterfaces o a w ctx = some (r, ctx')) (h1 : a.intf1.OpensNamed)
    (h2 : a.intf2.OpensNamed) (hn : HandlesNamed ctx) : HandlesNamed ctx' := by
  simp only [postArgsInterfaces, postArgsCachefile] at h
  repeat' split at h
  all_goals first
    | (cases h
       simp_all only [HandlesNamed, OpenAnswer.OpensNamed, tcpreplaySeterr, TcpreplayOpt.loadCache,
         Except.ok.injEq, Option.some.injEq, forall_eq', implies_true, and_self, and_true,
         reduceCtorEq, false_implies])
    | cases h

theorem tcpreplayPostArgs_handlesNamed {o : AutoOpts} {a : PostArgsAnswers} {r : Int}
    (h : tcpreplayPostArgs B o a ctx = some (r, ctx')) (h1 : a.intf1.OpensNamed)
    (h2 : a.intf2.OpensNamed) (hn : HandlesNamed ctx) : HandlesNamed ctx' := by
  simp only [tcpreplayPostArgs] at h
  repeat' split at h
  all_goals first | (cases h; exact hn) | exact postArgsInterfaces_handlesNamed h h1 h2 hn

theorem ApiCall.run_handlesNamed (hk : c.OpensNamed) (h : c.run B st ctx = some (st', ctx'))
    (hn : HandlesNamed ctx) : HandlesNamed ctx' := by
  cases c with
  | setInterface intf v a =>
    obtain rfl : ctx' = (tcpreplaySetInterface st ctx intf v a).2.2 :=
      (congrArg Prod.snd (Option.some.inj h)).symm
    rcases tcpreplaySetInterface_ctx st ctx intf v a with he | ⟨n, hname, he⟩
    exacts [hn.errOnly he, (hn.withIntf hk hname intf).errOnly he]
  | postArgs o a =>
    obtain ⟨⟨r, c'⟩, hp, he⟩ := Option.map_eq_some'.mp h
    cases he
    exact tcpreplayPostArgs_handlesNamed hp hk.1 hk.2 hn
  | abort =>
    cases h
    refine ⟨fun sp hs => ?_, fun sp hs => ?_⟩ <;>
      obtain ⟨sp0, hs0, rfl⟩ := Option.map_eq_some'.mp hs
    exacts [hn.1 sp0 hs0, hn.2 sp0 hs0]
  | addPcapfile p => cases h; dsimp only [tcpreplayAddPcapfile]; split_ifs <;> exact hn
  | setTcpprepCache _ | setManualCallback _ =>
    cases h
    simp only [tcpreplaySetTcpprepCache, tcpreplaySetManualCallback]
    split_ifs <;> exact hn
  | _ => cases h; exact hn

theorem SessionStep.handlesNamed {s t : Session} {l : SessionLabel} (h : SessionStep B D s l t)
    (hk : ∀ c, l = .call c → c.OpensNamed) (hn : HandlesNamed s.ctx) : HandlesNamed t.ctx := by
  cases h with
  | call _ hc => exact ApiCall.run_handlesNamed (hk _ rfl) hc hn
  | work _ hst =>
    obtain ⟨hf, -, -, h1, h2⟩ := hst.frame
    exact ⟨fun sp hs => (congrArg TcpreplayOpt.intf1Name hf).trans (hn.1 sp (h1.symm.trans hs)),
      fun sp hs => (congrArg TcpreplayOpt.intf2Name hf).trans (hn.2 sp (h2.symm.trans hs))⟩
  | replay _ | ret _ => exact hn

/-- Every open egress handle writes to the interface its name records, as long as `sendpacket_open`
opens the device `get_interface` resolved. -/
theorem open_handles_named {e : Option String} {ls : List SessionLabel} {s : Session}
    (hr : SessionRun B D (Session.init B e) ls s)
    (hk : ∀ c, SessionLabel.call c ∈ ls → c.OpensNamed) : HandlesNamed s.ctx := by
  induction hr with
  | refl => exact And.intro (fun _ h => by cases e <;> cases h) (fun _ h => by cases e <;> cases h)
  | tail _ hst ih =>
    exact hst.handlesNamed (fun c hc => hk c (by simp [hc]))
      (ih fun c hc => hk c (List.mem_append_left _ hc))

end

/-- Where the worker stands once a pass has run to its end. -/
def ReplayPc.AtEnd : ReplayPc → Tcpreplay → Prop
  | .loopTest, ctx => ctx.currentSource = ctx.options.sourceCnt ∨ ctx.options.loop ≠ 0
  | .finish, ctx => ctx.currentSource = ctx.options.sourceCnt
  | .done r, ctx => r = 0 → ctx.currentSource = ctx.options.sourceCnt
  | _, _ => True

theorem ReplayPc.atEnd_congr {pc : ReplayPc} {ctx ctx' : Tcpreplay}
    (hc : ctx'.currentSource = ctx.currentSource) (ho : ctx'.options = ctx.options) :
    pc.AtEnd ctx' ↔ pc.AtEnd ctx := by
  cases pc <;> simp only [ReplayPc.AtEnd, hc, ho]

/-- `current_source` within `[0, source_cnt]`, and at `source_cnt` once the worker has run its
passes. -/
structure CursorInv (s : Session) : Prop where
  nonneg : 0 ≤ s.ctx.currentSource
  le_cnt : s.ctx.currentSource ≤ s.ctx.options.sourceCnt
  atEnd : ∀ pc, s.worker = some pc → pc.AtEnd s.ctx

section
variable {B : Build} {D : DriverModel} {s t : Session} {l : SessionLabel}

theorem ReplayStep.cursor {pc pc' : ReplayPc} {ctx ctx' : Tcpreplay} {l : ReplayLabel}
    (h : ReplayStep B D (pc, ctx) l (pc', ctx')) (hb : pc.InBounds ctx)
    (h0 : 0 ≤ ctx.currentSource) (h1 : ctx.currentSource ≤ ctx.options.sourceCnt)
    (he : pc.AtEnd ctx) :
    0 ≤ ctx'.currentSource ∧ ctx'.currentSource ≤ ctx'.options.sourceCnt ∧ pc'.AtEnd ctx' := by
  cases h with
  | badIndex _ | clockFails | failed _ => exact ⟨h0, h1, fun h => absurd h (by decide)⟩
  | startLimited hl => exact ⟨h0, h1, .inr (UInt32.ne_zero_of_pos hl)⟩
  | startForever _ | nextPass _ | restartPass _ =>
    exact ⟨Int.le_refl 0, by dsimp only [Tcpreplay.startRun, Tcpreplay.decLoop]; omega, trivial⟩
  | lastPass hL => exact ⟨h0, h1, he.resolve_right (not_not.mpr hL)⟩
  | endPass hge => exact ⟨h0, h1, .inl (by omega)⟩
  | succeeded _ =>
    obtain ⟨-, hlt⟩ := hb
    exact ⟨by dsimp only; omega, by dsimp only; omega, trivial⟩
  | finished => exact ⟨h0, h1, fun _ => he⟩
  | goodIndex _ | nextSource _ | callDriver _ | badType _ | driverReturns _ =>
    exact ⟨h0, h1, trivial⟩

theorem CursorInv.step (hi : CursorInv s) (ht : TableInv s) (h : SessionStep B D s l t) :
    CursorInv t := by
  obtain ⟨h0, h1, he⟩ := hi
  cases h with
  | call ho hc =>
    refine ⟨?_, ?_, fun pc hpc => ?_⟩
    · rcases ApiCall.run_cases hc with ⟨p, -, rfl⟩ | ⟨-, rfl⟩ | hf
      exacts [(tcpreplayAddPcapfile_currentSource _ _).symm ▸ h0, h0, hf.currentSource ▸ h0]
    · rcases ApiCall.run_cases hc with ⟨p, -, rfl⟩ | ⟨-, rfl⟩ | hf
      · rw [tcpreplayAddPcapfile_currentSource, tcpreplayAddPcapfile_sourceCnt]
        split_ifs <;> omega
      · exact h1
      · rw [hf.currentSource, hf.sourceCnt]; exact h1
    · have hobs := ho.resolve_right (by simp [show s.worker = some pc from hpc])
      obtain ⟨-, hf⟩ := ApiCall.run_observer hobs hc
      exact (ReplayPc.atEnd_congr hf.currentSource hf.options).mpr (he pc hpc)
  | replay _ => exact ⟨h0, h1, fun pc h => by cases h; trivial⟩
  | work hpc hst =>
    obtain ⟨h0', h1', he'⟩ := hst.cursor (ht.worker _ hpc) h0 h1 (he _ hpc)
    exact ⟨h0', h1', fun pc h => by cases h; exact he'⟩
  | ret _ => exact ⟨h0, h1, fun pc h => by cases h⟩

theorem Reach.cursorInv (hs : Reach B D s) : CursorInv s := by
  obtain ⟨e, ls, hr⟩ := hs
  have h0 : (tcpreplayInit B e).currentSource = 0 := by cases e <;> rfl
  have hn : (tcpreplayInit B e).options.sourceCnt = 0 := (tcpreplayInit_clear B e).1
  refine (hr.inv (fun s => TableInv s ∧ CursorInv s) (fun hi h => ⟨hi.1.step h, hi.2.step hi.1 h⟩)
    ⟨TableInv.init B e, ?_, ?_, fun _ h => by cases h⟩).2 <;> dsimp only [Session.init] <;> omega

/-- In every state a process reaches, `tcpreplay_get_current_source` lies between 0 and
`tcpreplay_get_source_count`, and equals the count once a replay has returned 0. -/
theorem reach_current_source_within_count (hs : Reach B D s) :
    0 ≤ tcpreplayGetCurrentSource s.ctx ∧
      tcpreplayGetCurrentSource s.ctx ≤ tcpreplayGetSourceCount s.ctx ∧
      ∀ t, SessionStep B D s (.ret 0) t →
        tcpreplayGetCurrentSource t.ctx = tcpreplayGetSourceCount t.ctx := by
  obtain ⟨h0, h1, he⟩ := hs.cursorInv
  refine ⟨h0, h1, fun t h => ?_⟩
  cases h with
  | ret hw => exact he _ hw rfl

end

theorem reach_current_source_after_replay :
    ∃ s t, Reach zeroBasedBuild anyDriver s ∧ SessionStep zeroBasedBuild anyDriver s (.ret 0) t ∧
      tcpreplayGetCurrentSource t.ctx = 1 ∧
      (0 ≤ tcpreplayGetCurrentSource s.ctx ∧
        tcpreplayGetCurrentSource s.ctx ≤ tcpreplayGetSourceCount s.ctx ∧
        ∀ t, SessionStep zeroBasedBuild anyDriver s (.ret 0) t →
          tcpreplayGetCurrentSource t.ctx = tcpreplayGetSourceCount t.ctx) := by
  have hr := (@SessionRun.refl zeroBasedBuild anyDriver (Session.init zeroBasedBuild none))
    |>.call (.addPcapfile "a.pcap") (.inr rfl) rfl
    |>.replay 0 rfl
    |>.tail (.work rfl (.goodIndex (by decide)))
    |>.tail (.work rfl (@ReplayStep.startLimited _ _ _ {} (by decide)))
    |>.tail (.work rfl (.nextPass (by decide)))
    |>.tail (.work rfl (.nextSource (by decide)))
    |>.tail (.work rfl (@ReplayStep.callDriver _ _ _ _ .sourceFilename (by decide)))
    |>.tail (.work rfl
      (@ReplayStep.driverReturns _ anyDriver _ _ _ ⟨0, {}, 0, 0, fun _ => {}, none⟩ trivial))
    |>.tail (.work rfl (.succeeded (by decide)))
    |>.tail (.work rfl (.endPass (by decide)))
    |>.tail (.work rfl (.lastPass (by decide)))
    |>.tail (.work rfl .finished)
  exact ⟨_, _, ⟨none, _, hr⟩, .ret rfl, rfl, reach_current_source_within_count ⟨none, _, hr⟩⟩

end TcpreplayApi
