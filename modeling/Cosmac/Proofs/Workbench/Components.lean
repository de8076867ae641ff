/-
**Components: requests for different parts of a workbench do not meet.**

A request that joins no parts reads and writes one component only: memory, the keypad with its
script, the framebuffer with its frame counter, or one of the machine's other fields. So what the
requests for a component are answered, and what becomes of it, is the same whatever stands between
them, and a run may be reordered as long as the requests for each component keep their order.

* `Component`, `Request.component?` — the components, and the one that a request is for.
* `content` — what a component is made of on a workbench; `ext_content` says that nothing else is
  there, but for the machines put by.
* `serve_loadSource`, `serve_loadPath` — loads into the machine are for memory.
* `exists_serve` — a request for a component is a function of that component; from it,
  `serve_own` and `serve_other`.
* `exchanges_own` — the requests for a component among others, and alone.
* `serveAll_reordered` — runs reordered.
-/

import Cosmac.Workbench

namespace Cosmac

namespace Workbench

/-! ### Components -/

/-- The parts of a workbench that requests are for. -/
inductive Component where
  | memory
  /-- The keypad and the script of keys for it. -/
  | controls
  /-- The framebuffer and the counter of its frames. -/
  | video
  | registers
  | index
  | pc
  | opcode
  | stack
  | sp
  | delayTimer
  | soundTimer
deriving DecidableEq

namespace Component

/-- The component that an assignment is for. -/
def ofAssignment : Machine.Assignment → Component
  | .register _ _ => registers
  | .stackEntry _ _ => stack
  | .index _ => index
  | .pc _ => pc
  | .opcode _ => opcode
  | .sp _ => sp
  | .delayTimer _ => delayTimer
  | .soundTimer _ => soundTimer

/-- What a component is made of. -/
def Content : Component → Type
  | memory => Memory
  | controls => Controls
  | video => Video
  | registers => Vector UInt8 numRegisters
  | stack => Vector UInt16 stackHeight
  | index | pc | opcode => UInt16
  | sp | delayTimer | soundTimer => UInt8

end Component

/-- The component that a request is for; none if it joins several. -/
def Request.component? : Request → Option Component
  | .memory _ | .loadSource _ | .loadPath _ _ => some .memory
  | .controls _ => some .controls
  | .video _ => some .video
  | .assign assignment => some (.ofAssignment assignment)
  | .fetch | .drawGlyph _ _ _ | .powerOn | .save | .restore _ | .compare _ | .describe _
  | .describeAtLength => none

/-- What a component is on a workbench. -/
def content (bench : Workbench) : (component : Component) → component.Content
  | .memory => bench.machine.memory
  | .controls => Controls.mk bench.machine.keypad bench.input
  | .video => Video.mk bench.machine.framebuffer bench.counter
  | .registers => bench.machine.registers
  | .index => bench.machine.index
  | .pc => bench.machine.pc
  | .opcode => bench.machine.opcode
  | .stack => bench.machine.stack
  | .sp => bench.machine.sp
  | .delayTimer => bench.machine.delayTimer
  | .soundTimer => bench.machine.soundTimer

/-- A workbench is its components and the machines put by. -/
theorem ext_content {first second : Workbench}
    (components : ∀ component, first.content component = second.content component)
    (saved : first.saved = second.saved) : first = second := by
  obtain ⟨⟨memory, registers, index, pc, opcode, stack, sp, delayTimer, soundTimer, keypad,
    framebuffer⟩, input, counter, _⟩ := first
  obtain ⟨⟨⟩, _, _, _⟩ := second
  obtain ⟨rfl, rfl⟩ := Controls.mk.inj (components .controls)
  obtain ⟨rfl, rfl⟩ := Video.mk.inj (components .video)
  obtain rfl := components .memory
  obtain rfl := components .registers
  obtain rfl := components .index
  obtain rfl := components .pc
  obtain rfl := components .opcode
  obtain rfl := components .stack
  obtain rfl := components .sp
  obtain rfl := components .delayTimer
  obtain rfl := components .soundTimer
  obtain rfl := saved
  rfl

/-- The workbench with something else for one of its components. -/
def put (bench : Workbench) : (component : Component) → component.Content → Workbench
  | .memory => fun memory => { bench with machine := { bench.machine with memory } }
  | .controls => fun (controls : Controls) =>
    { bench with
      machine := { bench.machine with keypad := controls.keypad }, input := controls.input }
  | .video => fun (video : Video) =>
    { bench with
      machine := { bench.machine with framebuffer := video.framebuffer }
      counter := video.counter }
  | .registers => fun registers => { bench with machine := { bench.machine with registers } }
  | .index => fun index => { bench with machine := { bench.machine with index } }
  | .pc => fun pc => { bench with machine := { bench.machine with pc } }
  | .opcode => fun opcode => { bench with machine := { bench.machine with opcode } }
  | .stack => fun stack => { bench with machine := { bench.machine with stack } }
  | .sp => fun sp => { bench with machine := { bench.machine with sp } }
  | .delayTimer => fun delayTimer => { bench with machine := { bench.machine with delayTimer } }
  | .soundTimer => fun soundTimer => { bench with machine := { bench.machine with soundTimer } }

section Put

variable (bench : Workbench) {component : Component}

theorem content_put (value : component.Content) :
    (bench.put component value).content component = value := by
  cases component <;> rfl

theorem content_put_of_ne {other : Component} (apart : component ≠ other)
    (value : other.Content) :
    (bench.put other value).content component = bench.content component := by
  cases other <;> cases component <;> first | rfl | exact absurd rfl apart

theorem saved_put (value : component.Content) : (bench.put component value).saved = bench.saved := by
  cases component <;> rfl

end Put

/-! ### One request -/

section Load

variable (bench : Workbench)

/-- A load from a source is for memory: nothing else of the machine is read or changed. -/
theorem serve_loadSource (source : Source) :
    let report := bench.machine.memory.loadSource source
    bench.serve (.loadSource source) =
      (.loaded report.outcome report.taken, bench.put .memory report.target) := rfl

/-- So is a load from a path. -/
theorem serve_loadPath (disk : Disk) (path : String) :
    let report := bench.machine.memory.loadPath disk path
    bench.serve (.loadPath disk path) =
      (.loaded report.outcome report.taken, bench.put .memory report.target) := rfl

end Load

/-- **A request for a component is a function of that component.** -/
theorem exists_serve {request : Request} {component : Component}
    (own : request.component? = some component) :
    ∃ answer : component.Content → Reply × component.Content, ∀ bench : Workbench,
      bench.serve request =
        ((answer (bench.content component)).1,
          bench.put component (answer (bench.content component)).2) := by
  cases request with
  | memory request =>
    obtain rfl := Option.some.inj own
    exact ⟨fun (memory : Memory) => (.memory (memory.serve request).1, (memory.serve request).2),
      fun _ => rfl⟩
  | loadSource source =>
    obtain rfl := Option.some.inj own
    exact ⟨fun (memory : Memory) => let report := memory.loadSource source
      (.loaded report.outcome report.taken, report.target), fun bench => bench.serve_loadSource _⟩
  | loadPath disk path =>
    obtain rfl := Option.some.inj own
    exact ⟨fun (memory : Memory) => let report := memory.loadPath disk path
      (.loaded report.outcome report.taken, report.target), fun bench => bench.serve_loadPath _ _⟩
  | controls request =>
    obtain rfl := Option.some.inj own
    exact ⟨fun (controls : Controls) =>
      (.controls (controls.serve request).1, (controls.serve request).2), fun _ => rfl⟩
  | video request =>
    obtain rfl := Option.some.inj own
    exact ⟨fun (video : Video) => (.video (video.serve request).1, (video.serve request).2),
      fun _ => rfl⟩
  | assign assignment =>
    obtain rfl := Option.some.inj own
    cases assignment with
    | register slot value =>
      refine ⟨fun (registers : Vector UInt8 numRegisters) =>
        if inside : slot < numRegisters then (.done, registers.set slot value)
        else (.fault, registers), fun bench => ?_⟩
      by_cases inside : slot < numRegisters
      · simp only [serve, Machine.assign?, dif_pos inside]
        rfl
      · simp only [serve, Machine.assign?, dif_neg inside]
        rfl
    | stackEntry slot value =>
      refine ⟨fun (stack : Vector UInt16 stackHeight) =>
        if inside : slot < stackHeight then (.done, stack.set slot value)
        else (.fault, stack), fun bench => ?_⟩
      by_cases inside : slot < stackHeight
      · simp only [serve, Machine.assign?, dif_pos inside]
        rfl
      · simp only [serve, Machine.assign?, dif_neg inside]
        rfl
    | index value => exact ⟨fun _ => (.done, value), fun _ => rfl⟩
    | pc value => exact ⟨fun _ => (.done, value), fun _ => rfl⟩
    | opcode value => exact ⟨fun _ => (.done, value), fun _ => rfl⟩
    | sp value => exact ⟨fun _ => (.done, value), fun _ => rfl⟩
    | delayTimer value => exact ⟨fun _ => (.done, value), fun _ => rfl⟩
    | soundTimer value => exact ⟨fun _ => (.done, value), fun _ => rfl⟩
  | _ => cases own

section Serve

variable {request : Request} {component : Component}

theorem serve_own {first second : Workbench} (own : request.component? = some component)
    (same : first.content component = second.content component) :
    (first.serve request).1 = (second.serve request).1 ∧
      (first.serve request).2.content component = (second.serve request).2.content component := by
  obtain ⟨answer, served⟩ := exists_serve own
  rw [served, served, content_put, content_put, same]
  exact ⟨rfl, rfl⟩

theorem serve_other (bench : Workbench) {other : Component}
    (own : request.component? = some other) (apart : component ≠ other) :
    (bench.serve request).2.content component = bench.content component := by
  obtain ⟨answer, served⟩ := exists_serve own
  rw [served, content_put_of_ne bench apart]

theorem saved_serve (bench : Workbench) (own : request.component? = some component) :
    (bench.serve request).2.saved = bench.saved := by
  obtain ⟨answer, served⟩ := exists_serve own
  rw [served, saved_put]

end Serve

/-! ### Runs -/

/-- Each request of a run joins no parts. -/
def Separate (requests : List Request) : Prop :=
  ∀ request ∈ requests, ∃ component, request.component? = some component

/-- Each request of a run with what it is answered, in order. -/
def exchanges (bench : Workbench) (requests : List Request) : List (Request × Reply) :=
  requests.zip (bench.serveAll requests).1

namespace Component

variable (component : Component)

/-- The requests of a run that are for a component. -/
def requests (requests : List Request) : List Request :=
  requests.filter fun request => request.component? = some component

/-- The exchanges of a run that are with a component. -/
def exchanges (exchanges : List (Request × Reply)) : List (Request × Reply) :=
  exchanges.filter fun exchange => exchange.1.component? = some component

end Component

theorem exchanges_cons (bench : Workbench) (request : Request) (later : List Request) :
    bench.exchanges (request :: later) =
      (request, (bench.serve request).1) :: (bench.serve request).2.exchanges later := rfl

theorem map_exchanges (bench : Workbench) (requests : List Request) :
    (bench.exchanges requests).map Prod.fst = requests := by
  induction requests generalizing bench with
  | nil => rfl
  | cons request later ih => rw [exchanges_cons, List.map_cons, ih]

theorem saved_serveAll (bench : Workbench) {requests : List Request} (separate : Separate requests) :
    (bench.serveAll requests).2.saved = bench.saved := by
  induction requests generalizing bench with
  | nil => rfl
  | cons request later ih =>
    obtain ⟨⟨component, own⟩, rest⟩ := List.forall_mem_cons.mp separate
    show ((bench.serve request).2.serveAll later).2.saved = bench.saved
    rw [ih _ rest, bench.saved_serve own]

/-- **The requests for a component among others, and alone.** The induction is on the run; what goes
along is that both workbenches have the same in that component. -/
theorem exchanges_own {component : Component} {first second : Workbench}
    (same : first.content component = second.content component) {requests : List Request}
    (separate : Separate requests) :
    component.exchanges (first.exchanges requests) =
        second.exchanges (component.requests requests) ∧
      (first.serveAll requests).2.content component =
        (second.serveAll (component.requests requests)).2.content component := by
  induction requests generalizing first second with
  | nil => exact ⟨rfl, same⟩
  | cons request later ih =>
    obtain ⟨⟨other, own⟩, rest⟩ := List.forall_mem_cons.mp separate
    by_cases here : component = other
    case pos =>
      subst here
      obtain ⟨reply, next⟩ := serve_own own same
      obtain ⟨replies, final⟩ := ih next rest
      have first_own : component.requests (request :: later) =
          request :: component.requests later := List.filter_cons_of_pos (decide_eq_true own)
      rw [exchanges_cons, first_own, exchanges_cons, ← replies, ← reply]
      exact ⟨List.filter_cons_of_pos (decide_eq_true own), final⟩
    case neg =>
      have apart : ¬ decide (request.component? = some component) = true := by
        rw [decide_eq_true_iff, own]
        exact fun equal => here (Option.some.inj equal).symm
      obtain ⟨replies, final⟩ := ih ((first.serve_other own here).trans same) rest
      have skipped : component.requests (request :: later) = component.requests later :=
        List.filter_cons_of_neg apart
      rw [exchanges_cons, skipped, ← replies]
      exact ⟨List.filter_cons_of_neg apart, final⟩

/-- The requests for a component may as well be alone. -/
theorem exchanges_alone (bench : Workbench) {requests : List Request}
    (separate : Separate requests) (component : Component) :
    component.exchanges (bench.exchanges requests) =
        bench.exchanges (component.requests requests) ∧
      (bench.serveAll requests).2.content component =
        (bench.serveAll (component.requests requests)).2.content component :=
  exchanges_own rfl separate

/-- Reordering keeps a run separate. -/
theorem Separate.reordered {requests reordered : List Request} (separate : Separate requests)
    (moved : requests.Perm reordered) : Separate reordered :=
  fun request found => separate request (moved.mem_iff.mpr found)

/-- **Components do not interfere.** A run of requests that join no parts may be reordered as long
as the requests for each component keep their order: each is answered as before, and the workbench
ends up the same. What a component's own requests are answered, and what becomes of it, is what
they alone come to, on any workbench that has the same in that component. -/
theorem serveAll_reordered (bench : Workbench) (requests : List Request)
    (separate : Separate requests) :
    (bench.exchanges requests).map Prod.fst = requests ∧
    (∀ reordered, requests.Perm reordered →
      (∀ component : Component, component.requests requests = component.requests reordered) →
      (∀ component : Component, component.exchanges (bench.exchanges requests) =
        component.exchanges (bench.exchanges reordered)) ∧
      (bench.serveAll requests).2 = (bench.serveAll reordered).2) ∧
    (∀ (component : Component) (other : Workbench),
      bench.content component = other.content component →
      component.exchanges (bench.exchanges requests) =
        other.exchanges (component.requests requests) ∧
      (bench.serveAll requests).2.content component =
        (other.serveAll (component.requests requests)).2.content component) := by
  refine ⟨map_exchanges bench requests, fun reordered moved same => ?_,
    fun component other agree => exchanges_own agree separate⟩
  have separate' : Separate reordered := separate.reordered moved
  -- alone, the requests for a component are the same ones in both runs
  have alone := bench.exchanges_alone separate
  have alone' := bench.exchanges_alone separate'
  refine ⟨fun component => ?_, ext_content (fun component => ?_) ?_⟩
  · rw [(alone component).1, (alone' component).1, same component]
  · rw [(alone component).2, (alone' component).2, same component]
  · rw [bench.saved_serveAll separate, bench.saved_serveAll separate']

/-- A register that does not exist is written before or after a key is pressed. -/
theorem serveAll_reordered_interleaved :
    Separate [.controls (.press 5), .assign (.register 16 1), .controls (.isHeld 5)] ∧
    [Request.controls (.press 5), .assign (.register 16 1), .controls (.isHeld 5)].Perm
      [.assign (.register 16 1), .controls (.press 5), .controls (.isHeld 5)] ∧
    (∀ component : Component,
      component.requests [.controls (.press 5), .assign (.register 16 1), .controls (.isHeld 5)] =
        component.requests
          [.assign (.register 16 1), .controls (.press 5), .controls (.isHeld 5)]) ∧
    Component.controls.exchanges (fresh.exchanges
        [.assign (.register 16 1), .controls (.press 5), .controls (.isHeld 5)]) =
      [(.controls (.press 5), .controls .done), (.controls (.isHeld 5), .controls (.flag true))] ∧
    Component.registers.exchanges (fresh.exchanges
        [.assign (.register 16 1), .controls (.press 5), .controls (.isHeld 5)]) =
      [(.assign (.register 16 1), .fault)] := by
  have separate : Separate
      [.controls (.press 5), .assign (.register 16 1), .controls (.isHeld 5)] := by
    simp only [Separate, List.forall_mem_cons]
    exact ⟨⟨_, rfl⟩, ⟨_, rfl⟩, ⟨_, rfl⟩, nofun⟩
  have moved : [Request.controls (.press 5), .assign (.register 16 1), .controls (.isHeld 5)].Perm
      [.assign (.register 16 1), .controls (.press 5), .controls (.isHeld 5)] := .swap _ _ _
  have same : ∀ component : Component,
      component.requests [.controls (.press 5), .assign (.register 16 1), .controls (.isHeld 5)] =
        component.requests
          [.assign (.register 16 1), .controls (.press 5), .controls (.isHeld 5)] := by
    intro component
    cases component <;> rfl
  obtain ⟨replies, -⟩ := (serveAll_reordered fresh _ separate).2.1 _ moved same
  exact ⟨separate, moved, same, (replies .controls).symm.trans rfl,
    (replies .registers).symm.trans rfl⟩

end Workbench

end Cosmac
