import KernelLaunch.Proofs.CodeNumbers

/-! Whose module a handle names. A program numbers its modules from zero and a handle is such a number, without
the program that it is from. So a program takes the handle of another one for that of its own module of the same
number, and finalizes this module's code if there is code at the offset. A handle is unknown to a program just
when the program has not given out the same number itself. -/

namespace KernelLaunch

namespace Program

variable {program : Program} {finalizer : Finalizer} {agent : String} {handle : ModuleHandle} {offset : UInt64}

theorem mem_catalogue_iff {table : SymbolTable} :
    (handle, table) ∈ program.catalogue ↔ program.modules[handle.index]? = some table := by
  rw [catalogue, List.mem_mapIdx, List.getElem?_eq_some_iff]
  constructor
  · rintro ⟨index, inside, same⟩
    obtain ⟨rfl, rfl⟩ := Prod.mk.inj same
    exact ⟨inside, rfl⟩
  · rintro ⟨inside, rfl⟩
    exact ⟨handle.index, inside, rfl⟩

theorem mem_handles_iff :
    handle ∈ program.catalogue.map Prod.fst ↔ handle.index < program.catalogue.length := by
  rw [map_fst_catalogue, List.mem_map, catalogue, List.length_mapIdx]
  constructor
  · rintro ⟨index, inside, rfl⟩
    exact List.mem_range.mp inside
  · intro inside
    exact ⟨handle.index, List.mem_range.mpr inside, rfl⟩

section
variable (working : finalizer.failure = none) (known : agent ∈ program.agents)
include working known

theorem finalize_unknown (missing : program.modules[handle.index]? = none) :
    program.finalize finalizer agent handle offset = .error (.unknownModule handle.index) := by
  simp only [finalize, refusal?, working, if_neg (not_not_intro known), missing]

theorem finalize_codeless {table : SymbolTable} (found : program.modules[handle.index]? = some table)
    (codeless : ∀ symbol ∈ table.symbols, symbol.offset ≠ offset) :
    program.finalize finalizer agent handle offset =
      .error (.finalizationFailed s!"no code object at offset {hexText offset.toNat} in {handle.text}") := by
  have absent : table.hasCodeAt offset ≠ true := by
    rw [Ne, SymbolTable.hasCodeAt_iff]
    rintro ⟨symbol, member, same⟩
    exact codeless symbol member same
  simp only [finalize, refusal?, working, if_neg (not_not_intro known), found, if_neg absent]

end

end Program

namespace Session

/-- The program at a place, for one of its agents, while nothing makes finalizations fail. -/
structure Ready (session : Session) (place : Nat) (program : Program) (agent : String) : Prop where
  found : session.programs[place]? = some program
  known : agent ∈ program.agents
  working : session.context.finalizer.failure = none

/-- The program at a place gives code for the offset. -/
def Finalizes (session : Session) (place : Nat) (handle : ModuleHandle) (offset : UInt64) (agent : String) : Prop :=
  ∃ number code after, session.step (.finalize place handle offset agent) = (.code number code, after, []) ∧
    code.offset = offset ∧ code.agent = agent

/-- The program at a place does not know the handle, and nothing is changed. -/
def Disowns (session : Session) (place : Nat) (handle : ModuleHandle) (offset : UInt64) (agent : String) : Prop :=
  session.step (.finalize place handle offset agent) = (.refused (.unknownModule handle.index), session, [])

variable {session : Session} {place : Nat} {program : Program} {agent : String} {handle : ModuleHandle}
  {offset : UInt64} {table : SymbolTable}

namespace Ready

variable (ready : session.Ready place program agent)
include ready

theorem disowns (missing : program.modules[handle.index]? = none) : session.Disowns place handle offset agent := by
  simp only [Disowns, step, withItem, ready.found, Context.finalize,
    Program.finalize_unknown ready.working ready.known missing]

theorem finalizes (own : program.modules[handle.index]? = some table)
    (code : ∃ symbol ∈ table.symbols, symbol.offset = offset) : session.Finalizes place handle offset agent := by
  have offered : program.Offers agent handle offset := ⟨ready.known, table, own, code⟩
  have finalized : session.step (.finalize place handle offset agent) =
      (.code session.codes.length ⟨session.context.finalizer.finalizations + 1, offset, agent⟩,
        { session with
          context := { session.context with finalizer := session.context.finalizer.counted }
          codes := session.codes ++ [⟨session.context.finalizer.finalizations + 1, offset, agent⟩] },
        []) := by
    simp only [step, withItem, ready.found, Context.finalize, Program.finalize_offered ready.working offered]
  exact ⟨_, _, _, finalized, rfl, rfl⟩

theorem refuses (own : program.modules[handle.index]? = some table)
    (codeless : ∀ symbol ∈ table.symbols, symbol.offset ≠ offset) :
    session.step (.finalize place handle offset agent) =
      (.refused (.finalizationFailed s!"no code object at offset {hexText offset.toNat} in {handle.text}"),
        session, []) := by
  simp only [step, withItem, ready.found, Context.finalize,
    Program.finalize_codeless ready.working ready.known own codeless]

theorem catalogueAt_eq : session.catalogueAt place = program.catalogue := by
  rw [catalogueAt, ready.found]
  rfl

theorem finalizes_iff :
    session.Finalizes place handle offset agent ↔
      ∃ own, (handle, own) ∈ session.catalogueAt place ∧ ∃ symbol ∈ own.symbols, symbol.offset = offset := by
  rw [ready.catalogueAt_eq]
  constructor
  · rintro ⟨number, code, after, finalized, _⟩
    cases own : program.modules[handle.index]? with
    | none =>
      have disowned : session.Disowns place handle offset agent := ready.disowns own
      rw [disowned] at finalized
      cases finalized
    | some table =>
      refine ⟨table, Program.mem_catalogue_iff.mpr own, ?_⟩
      apply Classical.byContradiction
      intro codeless
      rw [ready.refuses own fun symbol member same => codeless ⟨symbol, member, same⟩] at finalized
      cases finalized
  · rintro ⟨own, listed, code⟩
    exact ready.finalizes (Program.mem_catalogue_iff.mp listed) code

theorem disowns_iff :
    session.Disowns place handle offset agent ↔ (session.catalogueAt place).length ≤ handle.index := by
  rw [ready.catalogueAt_eq, Program.catalogue, List.length_mapIdx]
  constructor
  · intro disowned
    apply Nat.le_of_not_lt
    intro inside
    have present := List.getElem?_eq_getElem inside
    by_cases code : ∃ symbol ∈ program.modules[handle.index].symbols, symbol.offset = offset
    · obtain ⟨number, code, after, finalized, _⟩ := ready.finalizes present code
      rw [disowned] at finalized
      cases finalized
    · have refused := ready.refuses present fun symbol member same => code ⟨symbol, member, same⟩
      rw [disowned] at refused
      cases refused
  · intro outside
    exact ready.disowns (List.getElem?_eq_none outside)

end Ready

/-! ### Handles of another program -/

theorem mem_handlesAt_iff :
    handle ∈ (session.catalogueAt place).map Prod.fst ↔ handle.index < (session.catalogueAt place).length := by
  rw [catalogueAt]
  cases session.programs[place]? with
  | none =>
    simp only [Option.map_none, Option.getD_none, List.map_nil, List.not_mem_nil, List.length_nil, Nat.not_lt_zero]
  | some program => exact Program.mem_handles_iff

/-- A program gives each number to one module. -/
theorem catalogueAt_unique {own other : SymbolTable} (listed : (handle, own) ∈ session.catalogueAt place)
    (again : (handle, other) ∈ session.catalogueAt place) : own = other := by
  rw [catalogueAt] at listed again
  cases found : session.programs[place]? with
  | none =>
    rw [found] at listed
    cases listed
  | some program =>
    rw [found] at listed again
    have first := Program.mem_catalogue_iff.mp listed
    rw [Program.mem_catalogue_iff.mp again] at first
    exact (Option.some.inj first).symm

namespace Ready

variable (ready : session.Ready place program agent) (issuer : Nat)
include ready

theorem strangers_iff :
    (∀ handle ∈ (session.catalogueAt issuer).map Prod.fst, ∀ offset,
        session.Disowns place handle offset agent) ↔
      session.catalogueAt issuer = [] ∨ session.catalogueAt place = [] := by
  constructor
  · intro unknown
    by_cases none : session.catalogueAt issuer = []
    · exact .inl none
    · -- both would have issued the number zero
      have given : (⟨0⟩ : ModuleHandle) ∈ (session.catalogueAt issuer).map Prod.fst :=
        mem_handlesAt_iff.mpr (List.length_pos_iff.mpr none)
      have few := ready.disowns_iff.mp (unknown _ given 0)
      exact .inr (List.eq_nil_of_length_eq_zero (Nat.le_zero.mp few))
  · rintro (none | none) handle given offset
    · rw [none] at given
      cases given
    · rw [ready.disowns_iff, none]
      exact Nat.zero_le _

theorem faithful_iff :
    (∀ handle table offset, (handle, table) ∈ session.catalogueAt issuer →
        session.Finalizes place handle offset agent → (handle, table) ∈ session.catalogueAt place) ↔
      ∀ handle table own, (handle, table) ∈ session.catalogueAt issuer →
        (handle, own) ∈ session.catalogueAt place → own = table ∨ own.symbols = [] := by
  constructor
  · intro faithful handle table own theirs ours
    cases symbols : own.symbols with
    | nil => exact .inr rfl
    | cons symbol rest =>
      have code : ∃ known ∈ own.symbols, known.offset = symbol.offset := by
        rw [symbols]
        exact ⟨symbol, List.mem_cons_self, rfl⟩
      have finalized := ready.finalizes_iff.mpr ⟨own, ours, code⟩
      exact .inl (catalogueAt_unique ours (faithful handle table symbol.offset theirs finalized))
  · intro alike handle table offset theirs finalized
    obtain ⟨own, ours, symbol, member, _⟩ := ready.finalizes_iff.mp finalized
    rcases alike handle table own theirs ours with same | empty
    · rw [← same]
      exact ours
    · rw [empty] at member
      cases member

end Ready

/-- Programs that have issued these handles, each for a module, go by the number of a handle alone. -/
structure ByNumber (session : Session) (issued : Nat → List (ModuleHandle × SymbolTable)) : Prop where
  /-- A handle is unknown just when its number is, whichever program it is from. -/
  disowns : ∀ place program agent handle offset, session.Ready place program agent →
    (session.Disowns place handle offset agent ↔ (issued place).length ≤ handle.index)
  /-- Code is finalized from the module that the program gave the number to. -/
  finalizes : ∀ place program agent handle offset, session.Ready place program agent →
    (session.Finalizes place handle offset agent ↔
      ∃ own, (handle, own) ∈ issued place ∧ ∃ symbol ∈ own.symbols, symbol.offset = offset)
  /-- All that one program has issued is unknown to another one just when one of them has no module. -/
  strangers : ∀ issuer place program agent, session.Ready place program agent →
    ((∀ handle ∈ (issued issuer).map Prod.fst, ∀ offset, session.Disowns place handle offset agent) ↔
      issued issuer = [] ∨ issued place = [])
  /-- No code of another module is finalized just when modules of one number are the same module, or empty. -/
  faithful : ∀ issuer place program agent, session.Ready place program agent →
    ((∀ handle table offset, (handle, table) ∈ issued issuer → session.Finalizes place handle offset agent →
        (handle, table) ∈ issued place) ↔
      ∀ handle table own, (handle, table) ∈ issued issuer → (handle, own) ∈ issued place →
        own = table ∨ own.symbols = [])

theorem byNumber_of_catalogue (session : Session) : session.ByNumber session.catalogueAt where
  disowns _ _ _ _ _ ready := ready.disowns_iff
  finalizes _ _ _ _ _ ready := ready.finalizes_iff
  strangers issuer _ _ _ ready := ready.strangers_iff issuer
  faithful issuer _ _ _ ready := ready.faithful_iff issuer

/-- However modules are added to the programs of a device, each program takes a handle for the module that it gave
the same number to itself. The handles of another program are all unknown to it only if one of the two has no
module, and no code of another module is finalized for them only if the modules of each number are the same. -/
theorem handles_by_number (context : Context) (steps : List Step) :
    (after { context } steps).ByNumber fun place => history (added place) { context } steps := by
  have issued (place : Nat) :
      (after { context } steps).catalogueAt place = history (added place) { context } steps :=
    history_keeps (motive := fun log session => session.catalogueAt place = log) catalogue_step rfl steps
  rw [← funext issued]
  exact byNumber_of_catalogue _

/-- Two programs, each with the only module that was added to it. Both modules have code at one offset. -/
def twins : List Step :=
  [.load (Image.build [⟨"&a", 64⟩]), .load (Image.build [⟨"&b", 64⟩]),
    .createProgram ["host-agent"], .createProgram ["host-agent"], .addModule 0 0, .addModule 1 1]

/-- The second program does not refuse the handle that the first one was given, and finalizes its own module. -/
theorem handle_mistaken :
    (history (added 0) { context := .standard } twins).map (fun issued => (issued.1, issued.2.symbols)) =
        [(⟨0⟩, [⟨"&a", 64⟩])] ∧
      (history (added 1) { context := .standard } twins).map (fun issued => (issued.1, issued.2.symbols)) =
        [(⟨0⟩, [⟨"&b", 64⟩])] ∧
      (∃ program, Ready (after { context := .standard } twins) 1 program "host-agent") ∧
      Finalizes (after { context := .standard } twins) 1 ⟨0⟩ 64 "host-agent" ∧
      ¬Disowns (after { context := .standard } twins) 1 ⟨0⟩ 64 "host-agent" := by
  refine ⟨by decide, by decide, ⟨_, rfl, by decide, rfl⟩, ⟨0, ⟨1, 64, "host-agent"⟩, _, rfl, rfl, rfl⟩, ?_⟩
  intro disowned
  have reply := congrArg Prod.fst disowned
  cases reply

end Session
end KernelLaunch
