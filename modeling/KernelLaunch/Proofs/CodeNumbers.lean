import Mathlib.Data.List.Nodup
import KernelLaunch.Proofs.SessionHistory

/-! The numbers that a device gives to code, and a program to its modules. All programs of a device, those
of launches included, take the numbers of their codes from one count. Each program numbers its modules by
itself, and what is refused takes no number of either kind. -/

namespace KernelLaunch

/-- The code that an exchange with the device handed out. -/
def Exchange.codes : Exchange Module Program → List CodeDescriptor
  | ⟨.finalize _ _ _ _, answer⟩ =>
    match (answer : Except DriverError CodeDescriptor) with
    | .ok code => [code]
    | .error _ => []
  | _ => []

/-! ### What a finalization does -/

theorem SymbolTable.hasCodeAt_iff {table : SymbolTable} {offset : UInt64} :
    table.hasCodeAt offset = true ↔ ∃ symbol ∈ table.symbols, symbol.offset = offset := by
  simp only [hasCodeAt, List.any_eq_true, beq_iff_eq]

namespace Program

/-- The program is for this agent, and the module that it knows by this handle has a symbol at the offset. -/
structure Offers (program : Program) (agent : String) (handle : ModuleHandle) (offset : UInt64) : Prop where
  agent : agent ∈ program.agents
  code : ∃ table, program.modules[handle.index]? = some table ∧ ∃ symbol ∈ table.symbols, symbol.offset = offset

variable {program : Program} {finalizer after : Finalizer} {agent : String} {handle : ModuleHandle}
  {offset : UInt64} {code : CodeDescriptor}

theorem refusal?_eq_none_iff :
    program.refusal? finalizer agent handle offset = none ↔
      finalizer.failure = none ∧ program.Offers agent handle offset := by
  cases failing : finalizer.failure with
  | some reason =>
    simp only [refusal?, failing]
    exact ⟨nofun, nofun⟩
  | none =>
    simp only [refusal?, failing, true_and]
    by_cases known : agent ∈ program.agents
    · rw [if_neg (not_not_intro known)]
      cases found : program.modules[handle.index]? with
      | none =>
        constructor
        · exact nofun
        · intro offered
          obtain ⟨table, present, _⟩ := offered.code
          rw [found] at present
          cases present
      | some table =>
        simp only [ite_eq_left_iff, reduceCtorEq, imp_false, not_not, SymbolTable.hasCodeAt_iff]
        constructor
        · intro code
          exact ⟨known, table, found, code⟩
        · intro offered
          obtain ⟨other, present, code⟩ := offered.code
          rw [found] at present
          obtain rfl := Option.some.inj present
          exact code
    · rw [if_pos known]
      exact ⟨nofun, fun offered => absurd offered.agent known⟩

theorem finalize_offered (working : finalizer.failure = none) (offered : program.Offers agent handle offset) :
    program.finalize finalizer agent handle offset =
      .ok (⟨finalizer.finalizations + 1, offset, agent⟩, finalizer.counted) := by
  rw [finalize, refusal?_eq_none_iff.mpr ⟨working, offered⟩, finalizer.inStep]

theorem finalize_refused (refused : ¬(finalizer.failure = none ∧ program.Offers agent handle offset)) :
    ∃ cause, program.finalize finalizer agent handle offset = .error cause := by
  rw [← refusal?_eq_none_iff] at refused
  obtain ⟨cause, known⟩ := Option.ne_none_iff_exists'.mp refused
  exact ⟨cause, by rw [finalize, known]⟩

theorem finalize_eq_ok (finalized : program.finalize finalizer agent handle offset = .ok (code, after)) :
    code.handle = finalizer.lastCode + 1 ∧ after = finalizer.counted := by
  rw [finalize] at finalized
  split at finalized
  · cases finalized
  · cases finalized
    exact ⟨rfl, rfl⟩

end Program

/-! ### Codes are numbered in the order they are handed out -/

/-- From one state of a finalizer to another these codes were handed out, under the numbers that come next. -/
structure Finalizer.Issues (before : Finalizer) (codes : List CodeDescriptor) (after : Finalizer) : Prop where
  handles : codes.map CodeDescriptor.handle = List.range' (before.lastCode + 1) codes.length
  last : after.lastCode = before.lastCode + codes.length

namespace Finalizer.Issues

variable {first second third : Finalizer} {codes more : List CodeDescriptor}

theorem nothing (same : second.lastCode = first.lastCode) : first.Issues [] second := ⟨rfl, same⟩

theorem trans (before : first.Issues codes second) (after : second.Issues more third) :
    first.Issues (codes ++ more) third where
  handles := by
    have start : second.lastCode + 1 = first.lastCode + 1 + 1 * codes.length := by
      rw [before.last]
      omega
    rw [List.map_append, before.handles, after.handles, start, List.range'_append, List.length_append]
  last := by
    rw [after.last, before.last, List.length_append, Nat.add_assoc]

theorem single {code : CodeDescriptor} (next : code.handle = first.lastCode + 1) :
    first.Issues [code] first.counted :=
  ⟨congrArg (fun number => [number]) next, rfl⟩

end Finalizer.Issues

/-- An answer hands out no code, and at most counts a program, or it hands out the next code. -/
theorem HostSession.finalizer_answer (request : Request Module Program) (host : HostSession) :
    (Exchange.codes ⟨request, (answer request host).1⟩ = [] ∧
      ∃ programs, (answer request host).2.context.finalizer = { host.context.finalizer with programs }) ∨
    ∃ code, Exchange.codes ⟨request, (answer request host).1⟩ = [code] ∧
      code.handle = host.context.finalizer.lastCode + 1 ∧
      (answer request host).2.context.finalizer = host.context.finalizer.counted := by
  cases request with
  | createProgram agents => exact .inl ⟨rfl, _, rfl⟩
  | finalize program agent handle offset =>
    simp only [answer, Context.finalize]
    cases finalized : program.finalize host.context.finalizer agent handle offset with
    | error cause => exact .inl ⟨rfl, _, rfl⟩
    | ok issued =>
      obtain ⟨numbered, counted⟩ := Program.finalize_eq_ok finalized
      exact .inr ⟨issued.1, rfl, numbered, counted⟩
  | allocate index block =>
    obtain ⟨regions, after⟩ := host.context.allocate_regions index block
    have same := congrArg Context.finalizer after
    exact .inl ⟨rfl, host.context.finalizer.programs, same⟩
  | dispatch submission =>
    obtain ⟨defaultQueue, streams, after⟩ := host.context.dispatch_queues submission.stream
      submission.code submission.kernargs submission.workgroup submission.grid
    have same := congrArg Context.finalizer after
    exact .inl ⟨rfl, host.context.finalizer.programs, same⟩
  | free index buffer =>
    obtain ⟨regions, after⟩ := host.context.free_regions index buffer
    have same := congrArg Context.finalizer after
    exact .inl ⟨rfl, host.context.finalizer.programs, same⟩
  | clock | report | defaultQueue | queue | loadModule | findSymbol | agent | addModule =>
    exact .inl ⟨rfl, _, rfl⟩

namespace Finalizer.Issues

variable {first : Finalizer} {codes : List CodeDescriptor} {host : HostSession}

theorem answer (issues : first.Issues codes host.context.finalizer) (request : Request Module Program) :
    first.Issues (codes ++ Exchange.codes ⟨request, (HostSession.answer request host).1⟩)
      (HostSession.answer request host).2.context.finalizer := by
  apply issues.trans
  rcases host.finalizer_answer request with ⟨unissued, programs, after⟩ | ⟨code, issued, numbered, after⟩
  · rw [unissued, after]
    exact nothing rfl
  · rw [issued, after]
    exact single numbered

/-- A whole dialogue is handed its codes in their order. -/
theorem run {α : Type} (issues : first.Issues codes host.context.finalizer)
    (dialogue : Dialogue Module Program α) :
    first.Issues (codes ++ (dialogue.exchanges HostSession.answer host).flatMap Exchange.codes)
      (dialogue.run HostSession.answer host).2.context.finalizer := by
  apply Dialogue.exchanges_keep (motive := fun codes (host : HostSession) =>
    first.Issues codes host.context.finalizer) _ issues
  intro codes host issues request
  exact issues.answer request

end Finalizer.Issues

/-- No dialogue sets or clears the failure of finalizations. -/
theorem HostSession.failure_run {α : Type} (dialogue : Dialogue Module Program α) (host : HostSession) :
    (dialogue.run answer host).2.context.finalizer.failure = host.context.finalizer.failure := by
  induction dialogue generalizing host with
  | done value => rfl
  | ask request next ih =>
    rw [Dialogue.run, ih]
    rcases host.finalizer_answer request with ⟨_, programs, after⟩ | ⟨_, _, _, after⟩
    · rw [after]
    · rw [after]
      rfl

/-! ### What the steps of a session are handed -/

namespace Program

/-- The modules of a program, each with the handle that it was given. -/
def catalogue (program : Program) : List (ModuleHandle × SymbolTable) :=
  program.modules.mapIdx fun index table => (⟨index⟩, table)

theorem catalogue_concat (program : Program) (table : SymbolTable) :
    catalogue { program with modules := program.modules ++ [table] } =
      program.catalogue ++ [(⟨program.modules.length⟩, table)] := List.mapIdx_concat

theorem map_fst_catalogue (program : Program) :
    program.catalogue.map Prod.fst = (List.range program.modules.length).map ModuleHandle.mk := by
  apply List.ext_getElem
  · simp only [catalogue, List.length_map, List.length_mapIdx, List.length_range]
  · intro index _ _
    simp only [catalogue, List.getElem_map, List.getElem_mapIdx, List.getElem_range]

theorem map_snd_catalogue (program : Program) : program.catalogue.map Prod.snd = program.modules := by
  apply List.ext_getElem
  · rw [catalogue, List.length_map, List.length_mapIdx]
  · intro index _ _
    rw [List.getElem_map]
    simp only [catalogue, List.getElem_mapIdx]

end Program

namespace Session

/-- The codes that a step is handed, by a finalization of its own or by those of a launch. -/
def issued (session : Session) : Step → List CodeDescriptor
  | .finalize program handle offset agent =>
    match (session.step (.finalize program handle offset agent)).1 with
    | .code _ code => [code]
    | _ => []
  | .launch kernel arguments homes => (session.exchanged kernel arguments homes).flatMap Exchange.codes
  | _ => []

/-- What a step adds to the program at a place: a module, and the handle that it gets. -/
def added (place : Nat) (session : Session) : Step → List (ModuleHandle × SymbolTable)
  | .addModule program code =>
    if program = place then
      match session.programs[program]?, session.modules[code]? with
      | some found, some (.loaded table) =>
        match found.addModule (.loaded table) with
        | .ok (handle, _) => [(handle, table)]
        | .error _ => []
      | _, _ => []
    else []
  | _ => []

/-- The reason that a step gives for finalizations to fail from then on. -/
def Step.reasons : Step → List String
  | .failFinalization reason => [reason]
  | _ => []

/-- The agents that a step creates a program for. -/
def Step.assembled : Step → List (List String)
  | .createProgram agents => [agents]
  | _ => []

def catalogueAt (session : Session) (place : Nat) : List (ModuleHandle × SymbolTable) :=
  (session.programs[place]?.map Program.catalogue).getD []

variable {session : Session}

theorem finalizer_step {step : Step} (apart : step.part.covers .finalizer = false) :
    (session.step step).2.1.context.finalizer = session.context.finalizer := by
  cases part : step.part with
  | nothing => exact congrArg Context.finalizer (context_step part)
  | regions => exact regions_unseen Context.finalizer (fun _ _ => rfl) part
  | queues => exact queues_unseen Context.finalizer (fun _ _ _ => rfl) part
  | finalizer | everything =>
    rw [part] at apart
    cases apart

theorem programs_step {step : Step} (apart : step.assembles = false) :
    (session.step step).2.1.programs = session.programs := by
  apply unseen_step programs
  case blind => exact fun _ _ _ _ _ => rfl
  case assembles =>
    rw [apart]
    exact nofun
  case makes => exact fun _ _ _ _ => rfl

end Session

/-! ### What a session keeps -/

namespace Session

variable {session : Session}

theorem issues_step {first : Finalizer} {codes : List CodeDescriptor}
    (issues : first.Issues codes session.context.finalizer) (step : Step) :
    first.Issues (codes ++ session.issued step) (session.step step).2.1.context.finalizer := by
  cases step with
  | createProgram | failFinalization =>
    simp only [issued, List.append_nil]
    exact ⟨issues.handles, issues.last⟩
  | finalize place handle offset agent =>
    apply issues.trans
    cases found : session.programs[place]? with
    | none =>
      simp only [issued, Session.step, withItem, found]
      exact .nothing rfl
    | some program =>
      simp only [issued, Session.step, withItem, found, Context.finalize]
      cases finalized : program.finalize session.context.finalizer agent handle offset with
      | error cause => exact .nothing rfl
      | ok issued =>
        obtain ⟨numbered, counted⟩ := Program.finalize_eq_ok finalized
        simp only [counted]
        exact .single numbered
  | launch kernel arguments homes =>
    rw [context_launch, issued, exchanged]
    cases session.kernels[kernel]? with
    | none =>
      rw [List.flatMap_nil, List.append_nil]
      exact issues
    | some kernel => exact issues.run (KernelLaunch.launch (kernel.order arguments homes))
  | _ =>
    simp only [issued, List.append_nil]
    rw [finalizer_step rfl]
    exact issues

theorem failure_step {reasons : List String} (failing : session.context.finalizer.failure = reasons.getLast?)
    (step : Step) :
    (session.step step).2.1.context.finalizer.failure = (reasons ++ step.reasons).getLast? := by
  cases step with
  | failFinalization reason =>
    rw [Step.reasons, List.getLast?_concat]
    rfl
  | createProgram =>
    simp only [Step.reasons, List.append_nil]
    exact failing
  | finalize place handle offset agent =>
    simp only [Step.reasons, List.append_nil]
    rw [← failing]
    apply withItem_keeps fun session => session.context.finalizer.failure
    intro program
    simp only [Context.finalize]
    cases finalized : program.finalize session.context.finalizer agent handle offset with
    | error cause => rfl
    | ok issued =>
      have same := congrArg Finalizer.failure (Program.finalize_eq_ok finalized).2
      exact same
  | launch kernel arguments homes =>
    simp only [Step.reasons, List.append_nil]
    rw [context_launch, ← failing]
    cases session.kernels[kernel]? with
    | none => rfl
    | some kernel => exact HostSession.failure_run (KernelLaunch.launch (kernel.order arguments homes)) _
  | _ =>
    simp only [Step.reasons, List.append_nil]
    rw [finalizer_step rfl]
    exact failing

section
variable {place number : Nat} {program : Program} {table : SymbolTable}

theorem addModule_loaded (found : session.programs[place]? = some program)
    (loaded : session.modules[number]? = some (.loaded table)) :
    session.step (.addModule place number) =
      (.text (ModuleHandle.text ⟨program.modules.length⟩),
        { session with
          programs := session.programs.set place { program with modules := program.modules ++ [table] } },
        []) := by
  simp only [step, withItem, found, loaded, Program.addModule]

theorem addModule_foreign (found : session.programs[place]? = some program)
    (foreign : session.modules[number]? = some .foreign) :
    session.step (.addModule place number) =
      (.refused (.invalidImage "module was not loaded by the host driver"), session, []) := by
  simp only [step, withItem, found, foreign, Program.addModule]

/-- A step adds nothing and changes nothing, or there is a module of this device to add to a program. -/
theorem addModule_cases (session : Session) (place number : Nat) :
    ((session.step (.addModule place number)).2.1 = session ∧
      ∀ other, session.added other (.addModule place number) = []) ∨
    ∃ program table, session.programs[place]? = some program ∧
      session.modules[number]? = some (.loaded table) := by
  cases found : session.programs[place]? with
  | none =>
    left
    simp only [step, withItem, added, found, ite_self, implies_true, and_self]
  | some program =>
    cases kind : session.modules[number]? with
    | none =>
      left
      simp only [step, withItem, added, found, kind, ite_self, implies_true, and_self]
    | some code =>
      cases code with
      | loaded table => exact .inr ⟨program, table, rfl, rfl⟩
      | foreign =>
        left
        refine ⟨?_, ?_⟩
        · rw [addModule_foreign found kind]
        · simp only [added, found, kind, ite_self, implies_true]

end

theorem agents_step {assembled : List (List String)} (known : session.programs.map Program.agents = assembled)
    (step : Step) :
    (session.step step).2.1.programs.map Program.agents = assembled ++ step.assembled := by
  cases step with
  | createProgram agents =>
    rw [← known]
    exact List.map_append
  | addModule place number =>
    simp only [Step.assembled, List.append_nil]
    rw [← known]
    rcases session.addModule_cases place number with ⟨same, _⟩ | ⟨program, table, found, loaded⟩
    · rw [same]
    · obtain ⟨inside, rfl⟩ := List.getElem?_eq_some_iff.mp found
      have within : place < (session.programs.map Program.agents).length := by
        rw [List.length_map]
        exact inside
      have unchanged := List.set_getElem_self within
      rw [List.getElem_map] at unchanged
      rw [addModule_loaded found loaded, List.map_set]
      exact unchanged
  | _ =>
    simp only [Step.assembled, List.append_nil]
    rw [programs_step rfl]
    exact known

theorem catalogue_step {place : Nat} {log : List (ModuleHandle × SymbolTable)}
    (known : session.catalogueAt place = log) (step : Step) :
    (session.step step).2.1.catalogueAt place = log ++ session.added place step := by
  cases step with
  | createProgram agents =>
    simp only [added, List.append_nil]
    rw [← known]
    change ((session.programs ++ [⟨agents, []⟩])[place]?.map Program.catalogue).getD [] = _
    by_cases inside : place < session.programs.length
    · rw [List.getElem?_append_left inside]
      rfl
    · have outside := Nat.le_of_not_lt inside
      -- a new program has no module yet, as if there were none
      rw [List.getElem?_append_right outside, catalogueAt, List.getElem?_eq_none outside]
      cases place - session.programs.length <;> rfl
  | addModule other number =>
    rw [← known]
    rcases session.addModule_cases other number with ⟨same, nothing⟩ | ⟨program, table, found, loaded⟩
    · rw [same, nothing, List.append_nil]
    · obtain ⟨inside, _⟩ := List.getElem?_eq_some_iff.mp found
      rw [addModule_loaded found loaded]
      simp only [catalogueAt, added, found, loaded, Program.addModule, List.getElem?_set]
      by_cases here : other = place
      · subst here
        rw [if_pos rfl, if_pos inside, if_pos rfl, found]
        exact program.catalogue_concat table
      · rw [if_neg here, if_neg here, List.append_nil]
  | _ =>
    simp only [added, List.append_nil]
    rw [catalogueAt, programs_step rfl]
    exact known

/-- A session with a device that has finalized nothing yet. -/
def fresh (context : Context) : Session := { context := { context with finalizer := .idle } }

/-- A session that has been handed these codes, was given these reasons to fail, has created programs for
these agents, and has added these modules to the program at each place. -/
structure Numbered (session : Session) (codes : List CodeDescriptor) (reasons : List String)
    (assembled : List (List String)) (added : Nat → List (ModuleHandle × SymbolTable)) : Prop where
  code : ∀ place code, codes[place]? = some code → code.handle = place + 1
  distinct : (codes.map CodeDescriptor.handle).Nodup
  count : session.context.finalizer.finalizations = codes.length
  last : ∀ code, codes.getLast? = some code → session.context.finalizer.finalizations = code.handle
  failure : session.context.finalizer.failure = reasons.getLast?
  agents : session.programs.map Program.agents = assembled
  modules : ∀ place program, session.programs[place]? = some program →
    program.modules = (added place).map Prod.snd ∧
      (added place).map Prod.fst = (List.range program.modules.length).map ModuleHandle.mk
  adds : ∀ place program number table, session.programs[place]? = some program →
    session.modules[number]? = some (.loaded table) →
    session.step (.addModule place number) =
      (.text (ModuleHandle.text ⟨program.modules.length⟩),
        { session with
          programs := session.programs.set place { program with modules := program.modules ++ [table] } },
        [])
  declines : ∀ place program number, session.programs[place]? = some program →
    session.modules[number]? = some .foreign →
    session.step (.addModule place number) =
      (.refused (.invalidImage "module was not loaded by the host driver"), session, [])
  finalizes : ∀ place program handle offset agent, session.programs[place]? = some program →
    reasons = [] → program.Offers agent handle offset →
    session.step (.finalize place handle offset agent) =
      (.code session.codes.length ⟨codes.length + 1, offset, agent⟩,
        { session with
          context := { session.context with finalizer := session.context.finalizer.counted }
          codes := session.codes ++ [⟨codes.length + 1, offset, agent⟩] },
        [])
  refuses : ∀ place program handle offset agent, session.programs[place]? = some program →
    ¬(reasons = [] ∧ program.Offers agent handle offset) →
    ∃ cause, session.step (.finalize place handle offset agent) = (.refused cause, session, [])

theorem numbered_of_issues {codes : List CodeDescriptor} {reasons : List String}
    {assembled : List (List String)} {added : Nat → List (ModuleHandle × SymbolTable)}
    (issues : Finalizer.idle.Issues codes session.context.finalizer)
    (failing : session.context.finalizer.failure = reasons.getLast?)
    (agents : session.programs.map Program.agents = assembled)
    (catalogue : ∀ place, session.catalogueAt place = added place) :
    session.Numbered codes reasons assembled added := by
  have handles : codes.map CodeDescriptor.handle = List.range' 1 codes.length := issues.handles
  have count : session.context.finalizer.finalizations = codes.length := by
    rw [← session.context.finalizer.inStep, issues.last]
    exact Nat.zero_add _
  have numbered (place : Nat) (code : CodeDescriptor) (found : codes[place]? = some code) :
      code.handle = place + 1 := by
    obtain ⟨inside, _⟩ := List.getElem?_eq_some_iff.mp found
    have same : (codes.map CodeDescriptor.handle)[place]? = some code.handle := by
      rw [List.getElem?_map, found, Option.map_some]
    rw [handles, List.getElem?_range' inside] at same
    have given := Option.some.inj same
    omega
  have working : session.context.finalizer.failure = none ↔ reasons = [] := by
    rw [failing, List.getLast?_eq_none_iff]
  constructor
  case code => exact numbered
  case distinct =>
    rw [handles]
    exact List.nodup_range'
  case count => exact count
  case last =>
    intro code ends
    rw [List.getLast?_eq_getElem?] at ends
    obtain ⟨inside, _⟩ := List.getElem?_eq_some_iff.mp ends
    rw [count, numbered _ code ends]
    omega
  case failure => exact failing
  case agents => exact agents
  case modules =>
    intro place program found
    rw [← catalogue place, catalogueAt, found]
    exact ⟨program.map_snd_catalogue.symm, program.map_fst_catalogue⟩
  case adds =>
    intro place program number table found loaded
    exact addModule_loaded found loaded
  case declines =>
    intro place program number found foreign
    exact addModule_foreign found foreign
  case finalizes =>
    intro place program handle offset agent found unfailing offered
    have finalized := program.finalize_offered (working.mpr unfailing) offered
    simp only [step, withItem, found, Context.finalize, finalized, count]
  case refuses =>
    intro place program handle offset agent found refused
    rw [← working] at refused
    obtain ⟨cause, finalized⟩ := program.finalize_refused refused
    refine ⟨cause, ?_⟩
    simp only [step, withItem, found, Context.finalize, finalized]

/-- However programs, finalizations and launches follow one another on a device, its codes are numbered
from one in the order they are handed out, and each program numbers its modules from zero. -/
theorem codes_numbered (context : Context) (steps : List Step) :
    ((fresh context).after steps).Numbered ((fresh context).history issued steps)
      (steps.flatMap Step.reasons) (steps.flatMap Step.assembled)
      (fun place => (fresh context).history (added place) steps) := by
  have reasons := (fresh context).history_blind Step.reasons steps
  have assembled := (fresh context).history_blind Step.assembled steps
  apply numbered_of_issues
  · exact history_keeps (motive := fun codes session =>
      Finalizer.idle.Issues codes session.context.finalizer) issues_step (.nothing rfl) steps
  · have working : (fresh context).context.finalizer.failure = ([] : List String).getLast? := rfl
    rw [← reasons]
    exact history_keeps (motive := fun reasons session =>
      session.context.finalizer.failure = reasons.getLast?) failure_step working steps
  · rw [← assembled]
    exact history_keeps (motive := fun assembled session =>
      session.programs.map Program.agents = assembled) agents_step rfl steps
  · intro place
    exact history_keeps (motive := fun log session => session.catalogueAt place = log) catalogue_step rfl steps

/-- Two programs number their modules alike, and their codes apart. -/
example :
    ((fresh .standard).history issued
        [.load (Image.build [⟨"k", 64⟩]), .createProgram ["host-agent"], .createProgram ["host-agent"],
          .addModule 0 0, .addModule 1 0, .finalize 0 ⟨0⟩ 64 "host-agent", .finalize 1 ⟨1⟩ 64 "host-agent",
          .finalize 1 ⟨0⟩ 64 "host-agent"]).map CodeDescriptor.handle = [1, 2] := by decide

end Session
end KernelLaunch
