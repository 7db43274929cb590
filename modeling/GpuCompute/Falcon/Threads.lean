import GpuCompute.Falcon.Engines
import GpuCompute.Lib.Threads

/-!
# Falcon engines in the hands of several threads

`GpuRegs` is `Send` and `Sync`: several threads may hold it, and nothing is locked.  An upload or a
boot is many register accesses, and between two of them other threads may access the GPU.  With one
thread for each engine that does no harm: the engines are independent at the level of the single
access, and the operations of the threads might as well have been performed whole, one after the
other.

* `falconTask` : what a thread does, a list of operations on its engine.
* `falconThreads` : threads on one GPU, one register access at a time.
* `Serializable` : each thread is where it would be alone, and in the end all is as if the
  operations had been performed whole.
* `serializable_run` : that is so for all tasks and schedules.

Two threads on one engine are not covered: the control register and the data port of an upload
belong together, and nothing keeps another upload to the same engine from coming in between.
-/

namespace GpuCompute

open Systems

/-- Perform operations on an engine, one after the other.  The outputs are newest first. -/
def falconTask (e : FalconEngine) (ops : List FalconOp) : DriverFn (List FalconOut) :=
  fun _ regs dev =>
    (((oneFalcon e regs).trace dev ops).map Event.out, (oneFalcon e regs).final dev ops)

/-- **The registers that a task accesses.**  By induction on the operations. -/
theorem usesFalcon_falconTask (e : FalconEngine) (ops : List FalconOp) :
    (Falcon.new e).UsesFalcon (falconTask e ops) := by
  induction ops using List.reverseRecOn with
  | nil => exact uses_pure []
  | append_singleton ops op ih =>
    have hnext := fun outs => ((Falcon.new e).uses_perform op).map fun out => out :: outs
    have heq : falconTask e (ops ++ [op]) = fun _ regs dev =>
        let r := falconTask e ops regs dev
        let r' := (Falcon.new e).perform op regs r.2
        (r'.1 :: r.1, r'.2) := by
      funext δ regs dev
      simp only [falconTask, Machine.trace_concat, Machine.final_concat, List.map_cons]
      rfl
    rw [heq]
    exact ih.bind hnext

/-- Every task has a program, and only one (`Represents.unique`). -/
theorem exists_represents_falconTask (e : FalconEngine) (ops : List FalconOp) :
    ∃ p, Represents p (falconTask e ops) :=
  (usesFalcon_falconTask e ops).imp fun _ hp => hp.2

section Threads

variable {δ ε : Type} (engines : FalconEngine → GpuRegs δ) (rest : GpuRegs ε)

/-- A thread for each engine on one GPU, as a machine: an operation is a turn of a thread, in which
it makes its next access. -/
def falconThreads :
    Machine ((FalconEngine → Prog UInt32 UInt32 (List FalconOut)) × ((FalconEngine → δ) × ε))
      FalconEngine Unit :=
  threads (falconBank engines rest).bus

/-- What a thread has left to do, and the state of its engine. -/
def threadAt (t : (FalconEngine → Prog UInt32 UInt32 (List FalconOut)) × ((FalconEngine → δ) × ε))
    (e : FalconEngine) : Prog UInt32 UInt32 (List FalconOut) × δ :=
  (t.1 e, t.2.1 e)

/-- The threads do not disturb each other under the schedule. -/
structure Serializable (tasks : FalconEngine → List FalconOp)
    (ps : FalconEngine → Prog UInt32 UInt32 (List FalconOut)) (s : (FalconEngine → δ) × ε)
    (schedule : List FalconEngine) : Prop where
  /-- A thread and its engine are where they would be alone after as many turns. -/
  alone : ∀ e, threadAt ((falconThreads engines rest).final (ps, s) schedule) e =
    (Prog.step (engines e).bus)^[schedule.count e] (ps e, s.1 e)
  /-- With a turn for each of its accesses a thread has returned, with the outputs of its operations
  performed whole. -/
  done : ∀ e, (ps e).left (engines e).bus (s.1 e) ≤ schedule.count e →
    threadAt ((falconThreads engines rest).final (ps, s) schedule) e =
      (.pure (falconTask e (tasks e) (engines e) (s.1 e)).1,
        (falconTask e (tasks e) (engines e) (s.1 e)).2)
  /-- When all threads have returned, all is as if the operations had been performed whole, in any
  order that keeps those of each thread in their order. -/
  serial : (∀ e, (ps e).left (engines e).bus (s.1 e) ≤ schedule.count e) →
    ∀ ops, (∀ e, ops.filterMap (ownOp e) = tasks e) →
      (falconThreads engines rest).final (ps, s) schedule =
        (fun e => .pure (((falcons engines rest).trace s ops).filterMap (ownOut e)),
          (falcons engines rest).final s ops)
  /-- Nothing happens to the rest of the GPU. -/
  rest : ((falconThreads engines rest).final (ps, s) schedule).2.2 = s.2

variable {engines rest}

/-- **Threads on different engines are serializable** under every schedule of their accesses. -/
theorem serializable_run (tasks : FalconEngine → List FalconOp)
    (ps : FalconEngine → Prog UInt32 UInt32 (List FalconOut))
    (hps : ∀ e, Represents (ps e) (falconTask e (tasks e))) (s : (FalconEngine → δ) × ε)
    (schedule : List FalconEngine) :
    Serializable engines rest tasks ps s schedule := by
  have hwithin := fun e => (usesFalcon_falconTask e (tasks e)).within (hps e)
  have hreads := fun e => falconOwner_of_mem e falconReads (by cases e <;> decide)
  have hwrites := fun e => falconOwner_of_mem e falconWrites (by cases e <;> decide)
  obtain ⟨halone, hrest⟩ :=
    threads_final (fun e => (engines e).bus) rest.bus hwithin hreads hwrites s schedule
  have hdone : ∀ e, (ps e).left (engines e).bus (s.1 e) ≤ schedule.count e →
      threadAt ((falconThreads engines rest).final (ps, s) schedule) e =
        (.pure (falconTask e (tasks e) (engines e) (s.1 e)).1,
          (falconTask e (tasks e) (engines e) (s.1 e)).2) := by
    intro e hleft
    rw [hps e]
    exact (halone e).trans (Prog.step_iterate_of_left_le hleft)
  refine ⟨halone, hdone, fun hleft ops hops => ?_, hrest⟩
  -- alone the operations of an engine do what they do among those of the others
  have hserial : ∀ e, threadAt ((falconThreads engines rest).final (ps, s) schedule) e =
      (.pure (((falcons engines rest).trace s ops).filterMap (ownOut e)),
        ((falcons engines rest).final s ops).1 e) := by
    intro e
    obtain ⟨hshown, hstate⟩ := (falconRefinement engines rest e).trace_eq rfl ops
    have hops : ops.filterMap (falconRefinement engines rest e).op = tasks e := hops e
    rw [hops] at hshown hstate
    rw [hdone e (hleft e)]
    exact Prod.ext (congrArg Prog.pure hshown.symm) hstate.symm
  have hkept := falcons_rest engines rest s ops
  exact Prod.ext (funext fun e => congrArg Prod.fst (hserial e))
    (Prod.ext (funext fun e => congrArg Prod.snd (hserial e)) (hrest.trans hkept.symm))

end Threads

/-- A halt of PMU between the accesses of a thread that writes a mailbox of SEC2 and reads it. -/
theorem serializable_run_two_threads :
    let tasks : FalconEngine → List FalconOp
      | .pmu => [.halt]
      | .sec2 => [.writeMailbox0 7, .readMailbox0]
      | .gsp => []
    let ps : FalconEngine → Prog UInt32 UInt32 (List FalconOut)
      | .pmu => .write 0x10A100 FALCON_CPUCTL_HALT (.read 0x10A100 fun _ => .pure [.done])
      | .sec2 => .write 0x840040 7 (.read 0x840040 fun value => .pure [.word value, .done])
      | .gsp => .pure []
    let s : (FalconEngine → UInt32 → UInt32) × (UInt32 → UInt32) := (fun _ _ => 0, fun _ => 0)
    let schedule : List FalconEngine := [.sec2, .pmu, .sec2, .pmu]
    Serializable (fun _ => .plain) .plain tasks ps s schedule ∧
      ((falconThreads (fun _ => .plain) .plain).final (ps, s) schedule).1 .sec2 =
        .pure [.word 7, .done] := by
  intro tasks ps s schedule
  refine ⟨serializable_run tasks ps ?_ s schedule, rfl⟩
  intro e
  cases e <;> exact fun _ _ _ => rfl

end GpuCompute
