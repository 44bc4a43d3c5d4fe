import OpenStackExecutor.Client

/-!
# Executor programs

A method of the executor is a tree of client calls: `Prog.call c k` asks the client `c` and
continues with `k` on whatever it answers. Running a program against an answering function
yields the result, the answerer's final state and the trace of calls with their answers. A
program's footprint (`Prog.Uses`) bounds the calls it can make on every answer.
-/

namespace OpenStackExecutor

/-- A program that calls the Compute and Network clients. -/
inductive Prog (α : Type) where
  | pure (a : α)
  | call (c : Call) (k : Except ClientError c.Result → Prog α)

namespace Prog

/-- Sequencing: run the first program, then the continuation on its result. -/
def bind {α β : Type} : Prog α → (α → Prog β) → Prog β
  | .pure a, f => f a
  | .call c k, f => .call c fun r => (k r).bind f

instance : Monad Prog where
  pure := .pure
  bind := Prog.bind

@[simp] theorem bind_eq {α β : Type} (p : Prog α) (f : α → Prog β) : (p >>= f) = p.bind f := rfl

@[simp] theorem pure_eq {α : Type} (a : α) : (Pure.pure a : Prog α) = Prog.pure a := rfl

@[simp] theorem pure_bind {α β : Type} (a : α) (f : α → Prog β) : (Prog.pure a).bind f = f a :=
  rfl

@[simp] theorem map_eq {α β : Type} (f : α → β) (p : Prog α) :
    (f <$> p) = p.bind fun a => .pure (f a) := rfl

@[simp] theorem call_bind {α β : Type} (c : Call) (k : Except ClientError c.Result → Prog α)
    (f : α → Prog β) : (Prog.call c k).bind f = .call c fun r => (k r).bind f := rfl

/-- The result, the answerer's final state and the calls made, with their answers. -/
structure Outcome (σ α : Type) where
  result : α
  state : σ
  trace : List Event

/-- Run a program against `answer`, which answers each call and moves its own state. -/
def run {σ α : Type} (answer : σ → (c : Call) → Except ClientError c.Result × σ) :
    σ → Prog α → Outcome σ α
  | s, .pure a => ⟨a, s, []⟩
  | s, .call c k =>
    let o := run answer (answer s c).2 (k (answer s c).1)
    ⟨o.result, o.state, ⟨c, (answer s c).1⟩ :: o.trace⟩

variable {σ α β : Type} {answer : σ → (c : Call) → Except ClientError c.Result × σ}

@[simp] theorem run_pure (s : σ) (a : α) : run answer s (.pure a) = ⟨a, s, []⟩ := rfl

@[simp] theorem run_call (s : σ) (c : Call) (k : Except ClientError c.Result → Prog α) :
    run answer s (.call c k) =
      ⟨(run answer (answer s c).2 (k (answer s c).1)).result,
        (run answer (answer s c).2 (k (answer s c).1)).state,
        ⟨c, (answer s c).1⟩ :: (run answer (answer s c).2 (k (answer s c).1)).trace⟩ := rfl

/-- Running a sequence runs the first program, then the continuation from where it stopped. -/
theorem run_bind (s : σ) (p : Prog α) (f : α → Prog β) :
    run answer s (p.bind f) =
      ⟨(run answer (run answer s p).state (f (run answer s p).result)).result,
        (run answer (run answer s p).state (f (run answer s p).result)).state,
        (run answer s p).trace ++
          (run answer (run answer s p).state (f (run answer s p).result)).trace⟩ := by
  induction p generalizing s with
  | pure a => rfl
  | call c k ih => simp only [call_bind, run_call, ih, List.cons_append]

@[simp] theorem run_bind_result (s : σ) (p : Prog α) (f : α → Prog β) :
    (run answer s (p.bind f)).result =
      (run answer (run answer s p).state (f (run answer s p).result)).result := by
  rw [run_bind]

@[simp] theorem run_bind_state (s : σ) (p : Prog α) (f : α → Prog β) :
    (run answer s (p.bind f)).state =
      (run answer (run answer s p).state (f (run answer s p).result)).state := by
  rw [run_bind]

@[simp] theorem run_bind_trace (s : σ) (p : Prog α) (f : α → Prog β) :
    (run answer s (p.bind f)).trace =
      (run answer s p).trace ++
        (run answer (run answer s p).state (f (run answer s p).result)).trace := by
  rw [run_bind]

@[simp] theorem run_map_result (s : σ) (f : α → β) (p : Prog α) :
    (run answer s (f <$> p)).result = f (run answer s p).result := by
  simp only [map_eq, run_bind_result, run_pure]

@[simp] theorem run_map_state (s : σ) (f : α → β) (p : Prog α) :
    (run answer s (f <$> p)).state = (run answer s p).state := by
  simp only [map_eq, run_bind_state, run_pure]

@[simp] theorem run_map_trace (s : σ) (f : α → β) (p : Prog α) :
    (run answer s (f <$> p)).trace = (run answer s p).trace := by
  simp only [map_eq, run_bind_trace, run_pure, List.append_nil]

/-- The footprint of a program: every call it can make, on every answer, satisfies `allowed`. -/
def Uses (allowed : Call → Prop) : Prog α → Prop
  | .pure _ => True
  | .call c k => allowed c ∧ ∀ r, (k r).Uses allowed

theorem Uses.bind {allowed : Call → Prop} {p : Prog α} {f : α → Prog β} (hp : p.Uses allowed)
    (hf : ∀ a, (f a).Uses allowed) : (p.bind f).Uses allowed := by
  induction p with
  | pure a => exact hf a
  | call c k ih => exact ⟨hp.1, fun r => ih r (hp.2 r)⟩

theorem Uses.mono {allowed allowed' : Call → Prop} {p : Prog α} (hp : p.Uses allowed)
    (h : ∀ c, allowed c → allowed' c) : p.Uses allowed' := by
  induction p with
  | pure a => trivial
  | call c k ih => exact ⟨h c hp.1, fun r => ih r (hp.2 r)⟩

theorem Uses.map {allowed : Call → Prop} {p : Prog α} (hp : p.Uses allowed) (f : α → β) :
    (f <$> p).Uses allowed :=
  hp.bind fun _ => trivial

theorem Uses.ite {allowed : Call → Prop} {c : Prop} [Decidable c] {p q : Prog α}
    (hp : p.Uses allowed) (hq : q.Uses allowed) : (if c then p else q).Uses allowed := by
  split <;> assumption

/-- Every call in a run of a program lies in the program's footprint. -/
theorem Uses.trace {allowed : Call → Prop} {p : Prog α} (hp : p.Uses allowed) (s : σ) :
    ∀ e ∈ (run answer s p).trace, allowed e.1 := by
  induction p generalizing s with
  | pure a => simp
  | call c k ih =>
    simp only [run_call, List.mem_cons, forall_eq_or_imp]
    exact ⟨hp.1, ih _ (hp.2 _) _⟩

/-- Every event of a run is the answerer's answer to its call, from some state. -/
theorem mem_trace_answered (s : σ) (p : Prog α) :
    ∀ e ∈ (run answer s p).trace, ∃ s', (answer s' e.1).1 = e.2 := by
  induction p generalizing s with
  | pure a => simp
  | call c k ih =>
    simp only [run_call, List.mem_cons, forall_eq_or_imp]
    exact ⟨⟨s, rfl⟩, ih _ _⟩

end Prog

/-- A single call, returning the client's answer. -/
@[simp] def Prog.ask (c : Call) : Prog (Except ClientError c.Result) := .call c .pure

theorem Prog.Uses.ask {allowed : Call → Prop} {c : Call} (h : allowed c) :
    (Prog.ask c).Uses allowed :=
  ⟨h, fun _ => trivial⟩

namespace Compute

/-- `Compute.GetServer`. -/
@[simp] def getServer (id : String) : Prog (Except ClientError Server) := Prog.ask (.getServer id)
/-- `Compute.ListServers`. -/
@[simp] def listServers (opts : ServerListOpts) : Prog (Except ClientError (List Server)) :=
  Prog.ask (.listServers opts)
/-- `Compute.CreateServer`. -/
@[simp] def createServer (opts : CreateOptsBuilder) : Prog (Except ClientError Server) :=
  Prog.ask (.createServer opts)
/-- `Compute.BootFromVolume`. -/
@[simp] def bootFromVolume (opts : CreateOptsBuilder) : Prog (Except ClientError Server) :=
  Prog.ask (.bootFromVolume opts)
/-- `Compute.DeleteServer`. -/
@[simp] def deleteServer (id : String) : Prog (Except ClientError Unit) := Prog.ask (.deleteServer id)
/-- `Compute.ImageIDFromName`. -/
@[simp] def imageIDFromName (name : String) : Prog (Except ClientError String) :=
  Prog.ask (.imageIDFromName name)
/-- `Compute.FlavorIDFromName`. -/
@[simp] def flavorIDFromName (name : String) : Prog (Except ClientError String) :=
  Prog.ask (.flavorIDFromName name)

end Compute

namespace Network

/-- `Network.GetSubnet`. -/
@[simp] def getSubnet (id : String) : Prog (Except ClientError Unit) := Prog.ask (.getSubnet id)
/-- `Network.GroupIDFromName`. -/
@[simp] def groupIDFromName (name : String) : Prog (Except ClientError String) :=
  Prog.ask (.groupIDFromName name)
/-- `Network.CreatePort`. -/
@[simp] def createPort (opts : PortCreateOpts) : Prog (Except ClientError Port) :=
  Prog.ask (.createPort opts)
/-- `Network.UpdatePort`. -/
@[simp] def updatePort (id : String) (opts : PortUpdateOpts) : Prog (Except ClientError Unit) :=
  Prog.ask (.updatePort id opts)
/-- `Network.DeletePort`. -/
@[simp] def deletePort (id : String) : Prog (Except ClientError Unit) := Prog.ask (.deletePort id)
/-- `Network.ListPorts`. -/
@[simp] def listPorts (opts : PortListOpts) : Prog (Except ClientError (List Port)) :=
  Prog.ask (.listPorts opts)
/-- `Network.NetworkIDFromName`. -/
@[simp] def networkIDFromName (name : String) : Prog (Except ClientError String) :=
  Prog.ask (.networkIDFromName name)
/-- `Network.PortIDFromName`. -/
@[simp] def portIDFromName (name : String) : Prog (Except ClientError String) :=
  Prog.ask (.portIDFromName name)

end Network

end OpenStackExecutor
