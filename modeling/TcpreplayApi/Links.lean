import TcpreplayApi.Interface

/-! Several contexts in one process, sharing the link-type statics of `tcpreplay_set_interface`. -/
namespace TcpreplayApi

/-- A process: the statics of `tcpreplay_set_interface` and the contexts, in creation order. -/
structure Process where
  statics : DltStatics
  ctxs : List Tcpreplay

inductive ProcessLabel
  | init
  | setInterface (k : Nat) (intf : TcpreplayIntf) (ret : Int)
  | postArgs (k : Nat) (ret : Int)
  deriving DecidableEq

inductive ProcessStep (B : Build) : Process → ProcessLabel → Process → Prop
  | init (p : Process) (e : Option String) :
      ProcessStep B p .init ⟨p.statics, p.ctxs ++ [tcpreplayInit B e]⟩
  | setInterface (p : Process) (k : Nat) (hk : k < p.ctxs.length) (intf : TcpreplayIntf)
      (value : String) (a : OpenAnswer) :
      ProcessStep B p
        (.setInterface k intf (tcpreplaySetInterface p.statics p.ctxs[k] intf value a).1)
        ⟨(tcpreplaySetInterface p.statics p.ctxs[k] intf value a).2.1,
          p.ctxs.set k (tcpreplaySetInterface p.statics p.ctxs[k] intf value a).2.2⟩
  | postArgs (p : Process) (k : Nat) (hk : k < p.ctxs.length) (o : AutoOpts)
      (a : PostArgsAnswers) {r : Int} {ctx : Tcpreplay} :
      tcpreplayPostArgs B o a p.ctxs[k] = some (r, ctx) →
      ProcessStep B p (.postArgs k r) ⟨p.statics, p.ctxs.set k ctx⟩

inductive ProcessRun (B : Build) : Process → List ProcessLabel → Process → Prop
  | refl (p : Process) : ProcessRun B p [] p
  | tail {p q r : Process} {ls : List ProcessLabel} {l : ProcessLabel} :
      ProcessRun B p ls q → ProcessStep B q l r → ProcessRun B p (ls ++ [l]) r

theorem tcpreplaySetInterface_opened (st : DltStatics) (ctx : Tcpreplay) (intf : TcpreplayIntf)
    (value n : String) (sp : Sendpacket) :
    let st' := match intf with
      | .intf1 => { st with int1dlt := sp.dlt }
      | .intf2 => { st with int2dlt := sp.dlt }
    let r := tcpreplaySetInterface st ctx intf value ⟨some n, .ok sp⟩
    r.2.1 = st' ∧
      (r.1 = -1 ↔ st'.int1dlt ≠ -1 ∧ st'.int2dlt ≠ -1 ∧ st'.int1dlt ≠ st'.int2dlt) := by
  cases intf <;> simp only [tcpreplaySetInterface, dltCheck] <;> split_ifs with h <;> simp [h]

def linkOn (name : String) (dlt : Int) : OpenAnswer :=
  ⟨some name, .ok ⟨name, dlt, .c2s, false⟩⟩

/-- Two contexts of one process share the link-type statics: one is refused for the other's link
type, and the other ends with its interfaces open on different link types. -/
theorem shared_link_statics_mix_contexts :
    ∃ p1 p2, ProcessRun linuxBuild ⟨{}, []⟩
        [.init, .init, .setInterface 0 .intf1 0, .setInterface 1 .intf2 (-1)] p1 ∧
      (p1.ctxs.get? 1).map (·.intf1) = some none ∧
      (p1.ctxs.get? 1).map (·.errstr) =
        some (some ⟨"tcpreplay_set_interface", 421, .dltMismatch none 1 (some "wlan0") 105⟩) ∧
      ProcessRun linuxBuild p1 [.setInterface 1 .intf1 0, .setInterface 0 .intf2 0] p2 ∧
      (p2.ctxs.get? 0).map (fun c => (c.intf1.map (·.dlt), c.intf2.map (·.dlt))) =
        some (some 1, some 105) := by
  have h1 := (@ProcessRun.refl linuxBuild ⟨{}, []⟩).tail (.init _ none) |>.tail (.init _ none)
    |>.tail (.setInterface _ 0 (by decide) .intf1 "eth0" (linkOn "eth0" 1))
    |>.tail (.setInterface _ 1 (by decide) .intf2 "wlan0" (linkOn "wlan0" 105))
  exact ⟨_, _, h1, rfl, rfl, (ProcessRun.refl _)
    |>.tail (.setInterface _ 1 (by decide) .intf1 "wlan1" (linkOn "wlan1" 105))
    |>.tail (.setInterface _ 0 (by decide) .intf2 "wlan2" (linkOn "wlan2" 105)), rfl⟩

end TcpreplayApi
