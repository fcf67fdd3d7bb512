import Backplane.General.Threads

/-!
# Tasks and tenants

Model of `CTask` (`include/f_core/os/c_task.h`, `lib/f_core/os/c_task.cpp`) and `NRtos`
(`lib/f_core/os/n_rtos.cpp`) as threads: `main`, which starts the tasks one by one and, on a POSIX
board, stops them again, and a thread for each task that it has created. Every call to a tenant or
to the kernel is one move; the calls are recorded. Whether a stack can be allocated is an input, and
`k_panic` halts all threads. Nothing is assumed about priorities.

Results:
* `task_lifetime`: whatever a task does lies between its creation and its abort; it and all tasks
  before it were started up first.
* `round_robin`: between two sleeps a task runs each of its tenants once, in order.
-/

namespace Backplane.Os

open Backplane.Run
open Backplane.Threads

variable {τ : Type}

/-- `CTask`. -/
structure CTask (τ : Type) where
  name : String
  priority : Int
  stackSize : Nat
  sleepTimeMs : Int
  tenants : List τ := []

/-- `AddTenant`. -/
def CTask.addTenant (task : CTask τ) (tenant : τ) : CTask τ :=
  { task with tenants := task.tenants ++ [tenant] }

/-- A call to a tenant or to the kernel. Threads are known by the number of their task. -/
inductive Call (τ : Type)
  | startup (tenant : τ)
  | postStartup (tenant : τ)
  | run (tenant : τ)
  | cleanup (tenant : τ)
  | threadStackAlloc (stackSize : Nat)
  | threadCreate (i : Nat) (priority : Int)
  | msleep (ms : Int)
  | threadAbort (i : Nat)
  | threadStackFree (i : Nat)
  deriving DecidableEq

/-- The calls of `CTask::Initialize`. -/
def CTask.initializeCalls (i : Nat) (task : CTask τ) : List (Call τ) :=
  task.tenants.map .startup ++ task.tenants.map .postStartup ++
    [.threadStackAlloc task.stackSize] ++ [.threadCreate i task.priority]

/-- The calls of `~CTask`. -/
def CTask.destroyCalls (i : Nat) (task : CTask τ) : List (Call τ) :=
  task.tenants.map .cleanup ++ [.threadAbort i, .threadStackFree i]

/-- `StartRtos`. -/
def startRtos (tasks : List (CTask τ)) : List (Call τ) :=
  (tasks.mapIdx CTask.initializeCalls).flatten

/-- `StopRtos`. -/
def stopRtos (tasks : List (CTask τ)) : List (Call τ) := (tasks.mapIdx CTask.destroyCalls).flatten

/-- `main`: a POSIX board sleeps for a while and stops the tasks. -/
def mainProgram (tasks : List (CTask τ)) (stopAfter : Option Int) : List (Call τ) :=
  startRtos tasks ++ stopAfter.elim [] fun ms => .msleep ms :: stopRtos tasks

inductive RtosThread
  | main
  | task (i : Nat)
  deriving DecidableEq

/-- Which threads are alive, whether the kernel has panicked, and the calls made so far. -/
structure Kernel (τ : Type) where
  alive : Nat → Bool
  panicked : Bool
  trace : List (RtosThread × Call τ)

/-- What a thread has still to do: `main` its program, a task the rest of its `Run`. -/
abbrev RtosLocal (τ : Type) : RtosThread → Type
  | .main => List (Call τ)
  | .task _ => List τ

/-- Whether the stack that is asked for can be allocated. -/
abbrev RtosInput : RtosThread → Type
  | .main => Bool
  | .task _ => Unit

/-- A call of `main`. -/
def Kernel.perform (s : Kernel τ) (call : Call τ) (allocated : Bool) : Kernel τ :=
  let s := { s with trace := s.trace ++ [(.main, call)] }
  match call with
  | .threadStackAlloc _ => { s with panicked := !allocated }
  | .threadCreate i _ => { s with alive := Function.update s.alive i true }
  | .threadAbort i => { s with alive := Function.update s.alive i false }
  | _ => s

def mainMove (allocated : Bool) (s : Kernel τ) :
    List (Call τ) → Option (Kernel τ × List (Call τ))
  | [] => none
  | call :: rest => if s.panicked then none else some (s.perform call allocated, rest)

/-- `taskEntryWrapper`, which calls `Run` again and again. -/
def taskMove (tasks : List (CTask τ)) (i : Nat) (s : Kernel τ) (rest : List τ) :
    Option (Kernel τ × List τ) :=
  if s.panicked || !s.alive i then none
  else
    tasks[i]?.map fun task =>
      match rest with
      | tenant :: rest => ({ s with trace := s.trace ++ [(.task i, .run tenant)] }, rest)
      | [] => ({ s with trace := s.trace ++ [(.task i, .msleep task.sleepTimeMs)] }, task.tenants)

def rtos (tasks : List (CTask τ)) :
    Program RtosThread (Kernel τ) (RtosLocal τ) RtosInput where
  move
    | .main, allocated, s, l => mainMove allocated s l
    | .task i, _, s, l => taskMove tasks i s l

/-- `main` before `StartRtos`. -/
def rtosStart (tasks : List (CTask τ)) (stopAfter : Option Int) :
    World (Kernel τ) (RtosLocal τ) where
  shared := { alive := fun _ => false, panicked := false, trace := [] }
  locals
    | .main => mainProgram tasks stopAfter
    | .task i => (tasks[i]?.map CTask.tenants).getD []

/-! ## The program of `main` -/

/-- The calls of `main`. -/
def mainCalls (trace : List (RtosThread × Call τ)) : List (Call τ) :=
  trace.filterMap fun
    | (.main, call) => some call
    | _ => none

/-- The calls of a task. -/
def callsOf (i : Nat) (trace : List (RtosThread × Call τ)) : List (Call τ) :=
  trace.filterMap fun
    | (.main, _) => none
    | (.task j, call) => if j = i then some call else none

variable {tasks : List (CTask τ)} {i : Nat} {priority : Int}

theorem threadAbort_not_mem_startRtos : Call.threadAbort i ∉ startRtos tasks := by
  unfold startRtos
  simp [List.mem_flatten, List.mem_mapIdx, CTask.initializeCalls]

theorem threadCreate_not_mem_stopRtos : Call.threadCreate i priority ∉ stopRtos tasks := by
  unfold stopRtos
  simp [List.mem_flatten, List.mem_mapIdx, CTask.destroyCalls]

theorem threadCreate_mem_startRtos (h : Call.threadCreate i priority ∈ startRtos tasks) :
    ∃ task, tasks[i]? = some task ∧ task.priority = priority := by
  unfold startRtos at h
  obtain ⟨calls, hcalls, hmem⟩ := List.mem_flatten.mp h
  obtain ⟨j, hj, rfl⟩ := List.mem_mapIdx.mp hcalls
  have hcreate : j = i ∧ tasks[j].priority = priority := by
    simpa [CTask.initializeCalls, eq_comm] using hmem
  obtain ⟨rfl, hpriority⟩ := hcreate
  exact ⟨tasks[j], List.getElem?_eq_getElem hj, hpriority⟩

theorem startRtos_take_succ {task : CTask τ} (h : tasks[i]? = some task) :
    startRtos (tasks.take (i + 1)) = startRtos (tasks.take i) ++ task.initializeCalls i := by
  have hlt := (List.getElem?_eq_some_iff.mp h).1
  unfold startRtos
  rw [List.take_add_one, h, List.mapIdx_append, List.flatten_append, List.length_take,
    Nat.min_eq_left hlt.le]
  simp

/-- A part of the start that creates task `i` starts up all tasks to `i`. -/
theorem startRtos_prefix {task : CTask τ} {calls : List (Call τ)}
    (hcalls : calls <+: startRtos tasks) (htask : tasks[i]? = some task)
    (hmem : Call.threadCreate i task.priority ∈ calls) :
    startRtos (tasks.take (i + 1)) <+: calls := by
  have hstart : startRtos (tasks.take (i + 1)) <+: startRtos tasks := by
    unfold startRtos
    nth_rewrite 2 [← List.take_append_drop (i + 1) tasks]
    rw [List.mapIdx_append, List.flatten_append]
    exact List.prefix_append _ _
  rcases List.prefix_or_prefix_of_prefix hstart hcalls with hle | hge
  · exact hle
  -- the creation is the last call of this start, and the only one of task `i`
  · rw [startRtos_take_succ htask, CTask.initializeCalls, ← List.append_assoc] at hge ⊢
    rcases List.prefix_concat_iff.mp hge with heq | hbefore
    · rw [heq]
    · exfalso
      rcases List.mem_append.mp (hbefore.subset hmem) with hearlier | hown
      · obtain ⟨task', htask', -⟩ := threadCreate_mem_startRtos hearlier
        rw [List.getElem?_take, if_neg (Nat.lt_irrefl i)] at htask'
        cases htask'
      · simp at hown

/-- Where `main` creates a task it is still starting them. -/
theorem startRtos_of_threadCreate {stopAfter : Option Int} {calls rest : List (Call τ)}
    (h : calls ++ .threadCreate i priority :: rest = mainProgram tasks stopAfter) :
    calls ++ [.threadCreate i priority] <+: startRtos tasks := by
  have htail : Call.threadCreate i priority ∉
      stopAfter.elim [] fun ms => .msleep ms :: stopRtos tasks := by
    cases stopAfter with
    | none => exact List.not_mem_nil
    | some ms =>
      rw [Option.elim_some, List.mem_cons, not_or]
      exact ⟨by simp, threadCreate_not_mem_stopRtos⟩
  rcases List.append_eq_append_iff.mp h with ⟨between, hstart, hrest⟩ | ⟨between, -, hstop⟩
  · cases between with
    | nil =>
      rw [List.nil_append] at hrest
      rw [← hrest] at htail
      exact absurd List.mem_cons_self htail
    | cons call between =>
      obtain ⟨rfl, -⟩ := List.cons.inj hrest
      exact ⟨between, by rw [hstart, List.append_assoc, List.singleton_append]⟩
  · rw [hstop] at htail
    exact absurd (List.mem_append_right _ List.mem_cons_self) htail

/-! ## Lifetimes -/

/-- All tasks to `i` have been started up, and task `i` has not been aborted. -/
structure Started (tasks : List (CTask τ)) (i : Nat) (calls : List (Call τ)) : Prop where
  lt : i < tasks.length
  initialized : startRtos (tasks.take (i + 1)) <+: calls
  alive : Call.threadAbort i ∉ calls

/-- The law of lifetimes: `main` is in its program, a thread that is alive has been started, and
every call of a task was made after its start. -/
structure Lifetimes (tasks : List (CTask τ)) (stopAfter : Option Int) (s : Kernel τ)
    (rest : List (Call τ)) : Prop where
  done : mainCalls s.trace ++ rest = mainProgram tasks stopAfter
  alive : ∀ i, s.alive i = true → Started tasks i (mainCalls s.trace)
  past : ∀ pre i call post, s.trace = pre ++ (.task i, call) :: post →
    Started tasks i (mainCalls pre)

variable {stopAfter : Option Int} {s : Kernel τ} {rest : List (Call τ)}

/-- What is recorded behind a trace does not change what stands before a call in it. -/
theorem past_concat {x : RtosThread × Call τ}
    (h : ∀ pre i call post, s.trace = pre ++ (.task i, call) :: post →
      Started tasks i (mainCalls pre))
    (hx : ∀ i call, x = (.task i, call) → Started tasks i (mainCalls s.trace)) :
    ∀ pre i call post, s.trace ++ [x] = pre ++ (.task i, call) :: post →
      Started tasks i (mainCalls pre) := by
  intro pre i call post heq
  rcases List.eq_nil_or_concat post with rfl | ⟨before, last, rfl⟩
  · obtain ⟨rfl, hlast⟩ := List.append_inj' heq rfl
    exact hx i call (List.singleton_inj.mp hlast)
  · rw [List.concat_eq_append, ← List.cons_append, ← List.append_assoc] at heq
    exact h pre i call before (List.append_inj' heq rfl).1

theorem mainCalls_concat_main (trace : List (RtosThread × Call τ)) (call : Call τ) :
    mainCalls (trace ++ [(.main, call)]) = mainCalls trace ++ [call] := List.filterMap_append

theorem mainCalls_concat_task (trace : List (RtosThread × Call τ)) (call : Call τ) :
    mainCalls (trace ++ [(.task i, call)]) = mainCalls trace :=
  List.filterMap_append.trans (List.append_nil _)

/-- **What a turn of a task can do**: a call, if its thread is alive. -/
theorem taskMove_cases {l : List τ} {y : Kernel τ × List τ} (hy : taskMove tasks i s l = some y) :
    s.alive i = true ∧ ∃ task, tasks[i]? = some task ∧ ∃ call,
      y.1 = { s with trace := s.trace ++ [(.task i, call)] } ∧
      ((∃ tenant, call = .run tenant ∧ l = tenant :: y.2) ∨
        (call = .msleep task.sleepTimeMs ∧ l = [] ∧ y.2 = task.tenants)) := by
  unfold taskMove at hy
  split at hy
  · cases hy
  · rename_i hrunning
    obtain ⟨-, halive⟩ : s.panicked = false ∧ s.alive i = true := by simpa using hrunning
    obtain ⟨task, htask, heq⟩ := Option.map_eq_some_iff.mp hy
    refine ⟨halive, task, htask, ?_⟩
    cases l with
    | nil =>
      cases heq
      exact ⟨_, rfl, .inr ⟨rfl, rfl, rfl⟩⟩
    | cons tenant l =>
      cases heq
      exact ⟨_, rfl, .inl ⟨tenant, rfl, rfl⟩⟩

theorem lifetimes_task {l : List τ} {y : Kernel τ × List τ} (h : Lifetimes tasks stopAfter s rest)
    (hy : taskMove tasks i s l = some y) : Lifetimes tasks stopAfter y.1 rest := by
  obtain ⟨halive, task, htask, call, heq, -⟩ := taskMove_cases hy
  rw [heq]
  refine ⟨?_, fun j hj => ?_, past_concat h.past fun j call' hx => ?_⟩
  · rw [mainCalls_concat_task]
    exact h.done
  · rw [mainCalls_concat_task]
    exact h.alive j hj
  · cases hx
    exact h.alive i halive

theorem Started.concat {calls : List (Call τ)} {call : Call τ} (h : Started tasks i calls)
    (hcall : call ≠ .threadAbort i) : Started tasks i (calls ++ [call]) where
  lt := h.lt
  initialized := h.initialized.trans (List.prefix_append _ _)
  alive := by simpa [hcall.symm] using h.alive

/-- The thread of a task that has been created. -/
theorem started_of_threadCreate {calls rest : List (Call τ)}
    (h : calls ++ .threadCreate i priority :: rest = mainProgram tasks stopAfter) :
    Started tasks i (calls ++ [.threadCreate i priority]) := by
  have hstart := startRtos_of_threadCreate h
  obtain ⟨task, htask, rfl⟩ := threadCreate_mem_startRtos
    (hstart.subset (List.mem_append_right _ (List.mem_singleton_self _)))
  exact {
    lt := (List.getElem?_eq_some_iff.mp htask).1
    initialized := startRtos_prefix hstart htask
      (List.mem_append_right _ (List.mem_singleton_self _))
    alive := fun hmem => threadAbort_not_mem_startRtos (hstart.subset hmem) }

theorem perform_trace (call : Call τ) (allocated : Bool) :
    (s.perform call allocated).trace = s.trace ++ [(.main, call)] := by
  cases call <;> rfl

/-- **A thread that is alive after a call of `main`** was created by it, or was alive and was not
aborted. -/
theorem perform_alive {call : Call τ} {allocated : Bool}
    (h : (s.perform call allocated).alive i = true) :
    (∃ priority, call = .threadCreate i priority) ∨
      (s.alive i = true ∧ call ≠ .threadAbort i) := by
  cases call with
  | threadCreate j priority =>
    by_cases hij : i = j
    · subst hij
      exact .inl ⟨priority, rfl⟩
    · have halive : Function.update s.alive j true i = true := h
      rw [Function.update_of_ne hij] at halive
      exact .inr ⟨halive, by simp⟩
  | threadAbort j =>
    have halive : Function.update s.alive j false i = true := h
    by_cases hij : i = j
    · rw [hij, Function.update_self] at halive
      cases halive
    · rw [Function.update_of_ne hij] at halive
      exact .inr ⟨halive, by simpa [eq_comm] using hij⟩
  | _ => exact .inr ⟨h, by simp⟩

/-- **What a turn of `main` can do**: the next call. -/
theorem mainMove_cases {allocated : Bool} {y : Kernel τ × List (Call τ)}
    (hy : mainMove allocated s rest = some y) :
    ∃ call, rest = call :: y.2 ∧ y.1 = s.perform call allocated := by
  cases rest with
  | nil => cases hy
  | cons call rest =>
    rw [mainMove] at hy
    split at hy
    · cases hy
    · cases hy
      exact ⟨call, rfl, rfl⟩

theorem lifetimes_main {allocated : Bool} {y : Kernel τ × List (Call τ)}
    (h : Lifetimes tasks stopAfter s rest) (hy : mainMove allocated s rest = some y) :
    Lifetimes tasks stopAfter y.1 y.2 := by
  obtain ⟨call, hrest, hperform⟩ := mainMove_cases hy
  have hdone := h.done
  have hcalls : mainCalls (s.perform call allocated).trace = mainCalls s.trace ++ [call] := by
    rw [perform_trace, mainCalls_concat_main]
  rw [hrest] at hdone
  rw [hperform]
  refine ⟨?_, fun i halive => ?_, ?_⟩
  · rw [hcalls, List.append_assoc]
    exact hdone
  · rw [hcalls]
    rcases perform_alive halive with ⟨priority, rfl⟩ | ⟨hbefore, hcall⟩
    · exact started_of_threadCreate hdone
    · exact (h.alive i hbefore).concat hcall
  · rw [perform_trace]
    exact past_concat h.past fun i call' hx => by cases hx

/-- **The lifetime of a task**: whatever it does lies between its creation and its abort. Before it
does anything, it and all tasks before it have been started up, one after the other. -/
theorem task_lifetime (tasks : List (CTask τ)) (stopAfter : Option Int)
    (turns : List (Σ t, RtosInput t)) (pre post : List (RtosThread × Call τ)) (i : Nat)
    (call : Call τ)
    (h : (run (rtos tasks).step (rtosStart tasks stopAfter) turns).shared.trace =
      pre ++ (.task i, call) :: post) : Started tasks i (mainCalls pre) := by
  have hrun := world_induction (p := rtos tasks)
    (P := fun w => Lifetimes tasks stopAfter w.shared (w.locals .main))
    (w := rtosStart tasks stopAfter)
    { done := rfl
      alive := fun i hi => by cases hi
      past := fun pre i call post heq => by
        cases List.append_ne_nil_of_right_ne_nil pre (List.cons_ne_nil _ post) heq.symm }
    (fun w t a y hw hy => by
      cases t with
      | main => exact lifetimes_main hw hy
      | task i => exact lifetimes_task hw hy) turns
  exact hrun.past pre i call post h

/-- The tasks of `app/samples/tenants_and_tasks`. -/
def sampleTasks : List (CTask String) :=
  [(({ name := "Print Task", priority := 15, stackSize := 512, sleepTimeMs := 1000 } :
      CTask String).addTenant "World").addTenant "Launch",
    (({ name := "Counter Task", priority := 15, stackSize := 512, sleepTimeMs := 80 } :
      CTask String).addTenant "Counter 1").addTenant "Counter 2"]

/-- The first task is started up and runs while the second one is not. -/
def printTaskFirst : List (Σ t, RtosInput t) :=
  List.replicate 6 ⟨.main, true⟩ ++ List.replicate 2 ⟨.task 0, ()⟩

theorem task_lifetime_sample :
    Started sampleTasks 0 [.startup "World", .startup "Launch", .postStartup "World",
      .postStartup "Launch", .threadStackAlloc 512, .threadCreate 0 15] :=
  task_lifetime sampleTasks (some 5000) printTaskFirst
    [(.main, .startup "World"), (.main, .startup "Launch"), (.main, .postStartup "World"),
      (.main, .postStartup "Launch"), (.main, .threadStackAlloc 512), (.main, .threadCreate 0 15)]
    [(.task 0, .run "Launch")] 0 (.run "World") rfl

-- A tenant may run after its `Cleanup`, until its thread is aborted.
example :
    (run (rtos sampleTasks).step (rtosStart sampleTasks (some 5000))
      (List.replicate 15 ⟨.main, true⟩ ++ [⟨.task 0, ()⟩])).shared.trace.drop 13 =
    [(.main, .cleanup "World"), (.main, .cleanup "Launch"), (.task 0, .run "World")] := by
  decide

/-! ## Turns of a task -/

/-- A whole `Run`. -/
def CTask.cycle (task : CTask τ) : List (Call τ) :=
  task.tenants.map .run ++ [.msleep task.sleepTimeMs]

/-- The law of `Run`: whole cycles, and one that is under way. -/
def InCycle (task : CTask τ) (calls : List (Call τ)) (rest : List τ) : Prop :=
  rest <:+ task.tenants ∧
    ∃ k, calls ++ rest.map .run = (List.replicate k task.cycle).flatten ++ task.tenants.map .run

theorem InCycle.run {task : CTask τ} {calls : List (Call τ)} {tenant : τ} {rest : List τ}
    (h : InCycle task calls (tenant :: rest)) : InCycle task (calls ++ [.run tenant]) rest := by
  obtain ⟨hsuffix, k, hk⟩ := h
  refine ⟨(List.suffix_cons tenant rest).trans hsuffix, k, ?_⟩
  rw [← hk, List.append_assoc]
  rfl

theorem InCycle.msleep {task : CTask τ} {calls : List (Call τ)} (h : InCycle task calls []) :
    InCycle task (calls ++ [.msleep task.sleepTimeMs]) task.tenants := by
  obtain ⟨-, k, hk⟩ := h
  refine ⟨List.suffix_refl _, k + 1, ?_⟩
  rw [List.map_nil, List.append_nil] at hk
  rw [hk, List.replicate_succ', List.flatten_append, List.flatten_singleton, CTask.cycle,
    List.append_assoc _ (task.tenants.map Call.run) [Call.msleep task.sleepTimeMs]]

theorem callsOf_concat_self (trace : List (RtosThread × Call τ)) (call : Call τ) :
    callsOf i (trace ++ [(.task i, call)]) = callsOf i trace ++ [call] := by
  unfold callsOf
  rw [List.filterMap_append]
  simp

theorem callsOf_concat_other {t : RtosThread} (ht : t ≠ .task i)
    (trace : List (RtosThread × Call τ)) (call : Call τ) :
    callsOf i (trace ++ [(t, call)]) = callsOf i trace := by
  unfold callsOf
  rw [List.filterMap_append]
  cases t with
  | main => simp
  | task j => simp [show j ≠ i from fun h => ht (congrArg _ h)]

/-- **Round robin**: in any interleaving a task calls its tenants in order, each once between two
sleeps. -/
theorem round_robin (tasks : List (CTask τ)) (stopAfter : Option Int)
    (turns : List (Σ t, RtosInput t)) {i : Nat} {task : CTask τ} (htask : tasks[i]? = some task) :
    let w := run (rtos tasks).step (rtosStart tasks stopAfter) turns
    InCycle task (callsOf i w.shared.trace) (w.locals (.task i)) := by
  refine world_induction (p := rtos tasks)
    (P := fun w => InCycle task (callsOf i w.shared.trace) (w.locals (.task i))) ?_ ?_ turns
  · show InCycle task [] ((tasks[i]?.map CTask.tenants).getD [])
    rw [htask]
    exact ⟨List.suffix_refl _, 0, rfl⟩
  · intro w t a y hw hy
    rw [moved_shared]
    cases t with
    | main =>
      obtain ⟨call, -, hperform⟩ := mainMove_cases hy
      rw [moved_locals_other w y (by simp), hperform, perform_trace,
        callsOf_concat_other (by simp)]
      exact hw
    | task j =>
      obtain ⟨-, task', htask', call, htrace, hcall⟩ := taskMove_cases hy
      rw [htrace]
      by_cases hij : j = i
      · subst hij
        cases htask.symm.trans htask'
        rw [moved_locals_self, callsOf_concat_self]
        rcases hcall with ⟨tenant, rfl, hrest⟩ | ⟨rfl, hrest, hagain⟩
        · rw [hrest] at hw
          exact hw.run
        · rw [hrest] at hw
          rw [hagain]
          exact hw.msleep
      · have hother : RtosThread.task i ≠ .task j := fun h => hij (RtosThread.task.inj h).symm
        rw [moved_locals_other w y hother, callsOf_concat_other hother.symm]
        exact hw

theorem round_robin_sample :
    let w := run (rtos sampleTasks).step (rtosStart sampleTasks (some 5000)) printTaskFirst
    callsOf 0 w.shared.trace = [.run "World", .run "Launch"] ∧
      InCycle (sampleTasks.get ⟨0, by decide⟩) (callsOf 0 w.shared.trace) (w.locals (.task 0)) :=
  ⟨rfl, round_robin sampleTasks (some 5000) printTaskFirst rfl⟩

end Backplane.Os
