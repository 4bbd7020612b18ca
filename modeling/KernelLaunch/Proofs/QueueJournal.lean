import KernelLaunch.Proofs.LaunchCourse
import KernelLaunch.Proofs.SessionHistory

/-! The queues of a device, against a journal of what happened to each of them. A record is journaled as it
was when it was accepted. What a queue holds, and whether it refuses, follows from its own part of the
journal: nothing that happens to another queue, or to a buffer, is in it. -/

namespace KernelLaunch

/-- What can happen to a queue. -/
inductive QueueEvent where
  | accepted (record : DispatchRecord)
  /-- The records so far were forgotten. -/
  | cleared
  | failing (reason : String)
  /-- Dispatches no longer fail. -/
  | mended
  deriving DecidableEq

namespace QueueEvent

def record? : QueueEvent → Option DispatchRecord
  | .accepted record => some record
  | _ => none

/-- The reason to fail that an event sets or takes away. -/
def reason? : QueueEvent → Option (Option String)
  | .failing reason => some (some reason)
  | .mended => some none
  | _ => none

def apply : QueueEvent → Queue → Queue
  | .accepted record, queue => { queue with records := queue.records ++ [record] }
  | .cleared, queue => queue.clearRecords
  | .failing reason, queue => queue.failDispatches reason
  | .mended, queue => queue.clearFailure

theorem name_apply (event : QueueEvent) (queue : Queue) : (event.apply queue).name = queue.name := by
  cases event <;> rfl

end QueueEvent

section
variable (events : List QueueEvent)

/-- The records accepted since they were last forgotten. -/
def standingRecords : List DispatchRecord := (afterLast .cleared events).filterMap QueueEvent.record?

/-- The reason to fail, as it was last set or taken away. -/
def standingFailure : Option String := (events.filterMap QueueEvent.reason?).getLast?.join

end

/-- The queue is as these events leave one. -/
structure Queue.Follows (queue : Queue) (events : List QueueEvent) : Prop where
  records : queue.records = standingRecords events
  failure : queue.failure = standingFailure events

section
variable {queue : Queue} {events : List QueueEvent}

theorem standingRecords_concat {event : QueueEvent} (kept : event ≠ .cleared) :
    standingRecords (events ++ [event]) = standingRecords events ++ event.record?.toList := by
  rw [standingRecords, afterLast_concat kept, List.filterMap_append]
  cases told : event.record? <;> simp only [List.filterMap_cons, told] <;> rfl

theorem standingFailure_concat (event : QueueEvent) :
    standingFailure (events ++ [event]) = event.reason?.getD (standingFailure events) := by
  rw [standingFailure, List.filterMap_append]
  cases told : event.reason? with
  | none =>
    simp only [List.filterMap_cons, told, List.filterMap_nil, List.append_nil]
    rfl
  | some reason =>
    simp only [List.filterMap_cons, told, List.filterMap_nil, List.getLast?_concat]
    rfl

theorem Queue.Follows.concat (follows : queue.Follows events) (event : QueueEvent) :
    (event.apply queue).Follows (events ++ [event]) := by
  have records (kept : event ≠ .cleared) :
      standingRecords (events ++ [event]) = queue.records ++ event.record?.toList := by
    rw [standingRecords_concat kept, follows.records]
  have failure : standingFailure (events ++ [event]) = event.reason?.getD queue.failure := by
    rw [standingFailure_concat, follows.failure]
  cases event with
  | accepted record => exact ⟨(records QueueEvent.noConfusion).symm, failure.symm⟩
  | cleared =>
    refine ⟨?_, failure.symm⟩
    rw [standingRecords, afterLast_mark]
    rfl
  | failing reason =>
    refine ⟨?_, failure.symm⟩
    rw [records QueueEvent.noConfusion]
    exact (List.append_nil _).symm
  | mended =>
    refine ⟨?_, failure.symm⟩
    rw [records QueueEvent.noConfusion]
    exact (List.append_nil _).symm

end

/-! ### What a queue accepts -/

/-- The sizes of a dispatch that a packet can express. -/
structure Expressible (workgroup : Option Dims) (grid : Dims) : Prop where
  lowest : 1 ≤ grid.rank
  highest : grid.rank ≤ 3
  matched : ∀ size, workgroup = some size → size.rank = grid.rank

theorem Queue.refusal?_eq_none_iff {queue : Queue} {workgroup : Option Dims} {grid : Dims} :
    queue.refusal? workgroup grid = none ↔ queue.failure = none ∧ Expressible workgroup grid := by
  cases failing : queue.failure with
  | some reason =>
    simp only [refusal?, failing]
    exact ⟨nofun, nofun⟩
  | none =>
    simp only [refusal?, failing, true_and]
    by_cases outside : grid.rank = 0 ∨ maxDispatchRank < grid.rank
    · rw [if_pos outside]
      constructor
      · exact nofun
      · intro expressible
        have lowest := expressible.lowest
        have highest := expressible.highest
        simp only [maxDispatchRank] at outside
        omega
    · rw [if_neg outside]
      simp only [maxDispatchRank] at outside
      have lowest : 1 ≤ grid.rank := by omega
      have highest : grid.rank ≤ 3 := by omega
      cases workgroup with
      | none => exact ⟨fun _ => ⟨lowest, highest, nofun⟩, fun _ => rfl⟩
      | some size =>
        simp only [ite_eq_left_iff, reduceCtorEq, imp_false, Decidable.not_not]
        constructor
        · intro same
          refine ⟨lowest, highest, ?_⟩
          intro other given
          obtain rfl := Option.some.inj given
          exact same
        · intro expressible
          exact expressible.matched size rfl

/-! ### Where queues are -/

theorem getElem?_concat {α : Type} (items : List α) (last : α) (index : Nat) :
    (items ++ [last])[index]? = if index = items.length then some last else items[index]? := by
  split
  · rename_i here
    rw [here, List.getElem?_concat_length]
  · by_cases inside : index < items.length
    · rw [List.getElem?_append_left inside]
    · rw [List.getElem?_eq_none, List.getElem?_eq_none]
      · omega
      · rw [List.length_append, List.length_singleton]
        omega

theorem stream_succ_iff {index other : Nat} :
    some (StreamId.mk (index + 1)) = some ⟨other + 1⟩ ↔ index = other := by
  rw [Option.some.injEq, StreamId.mk.injEq, Nat.add_right_cancel_iff]

namespace Context

variable {context : Context} {target : Option StreamId} {queue : Queue} {workgroup : Option Dims} {grid : Dims}

theorem dispatch_working (chosen : context.queue? target = some queue) (working : queue.failure = none)
    (expressible : Expressible workgroup grid) (code : CodeDescriptor) (kernargs : Buffer) :
    context.dispatch target code kernargs workgroup grid =
      (.ok (), context.recorded target ⟨code, kernargs.address, kernargs.bytes, workgroup, grid⟩) :=
  dispatch_accepted chosen (Queue.refusal?_eq_none_iff.mpr ⟨working, expressible⟩) code kernargs

theorem dispatch_cases (context : Context) (target : Option StreamId) (code : CodeDescriptor)
    (kernargs : Buffer) (workgroup : Option Dims) (grid : Dims) :
    (∃ cause, context.dispatch target code kernargs workgroup grid = (.error cause, context)) ∨
    ∃ queue, context.queue? target = some queue ∧ queue.failure = none ∧ Expressible workgroup grid := by
  cases chosen : context.queue? target with
  | none =>
    left
    simp only [dispatch, chosen]
    exact ⟨_, rfl⟩
  | some queue =>
    cases verdict : queue.refusal? workgroup grid with
    | none => exact .inr ⟨queue, rfl, Queue.refusal?_eq_none_iff.mp verdict⟩
    | some reason => exact .inl ⟨_, dispatch_refused chosen verdict code kernargs⟩

theorem queue?_succ (context : Context) (index : Nat) :
    context.queue? (some ⟨index + 1⟩) = context.streams[index]? := rfl

/-- A new queue has a stream of its own, and is seen nowhere else. -/
theorem queue?_addStream (context : Context) (name : String) (target : Option StreamId) :
    (context.addStream name).2.queue? target =
      if target = some ⟨context.streams.length + 1⟩ then some ⟨name, [], none⟩ else context.queue? target := by
  match target with
  | none => rfl
  | some ⟨0⟩ => rfl
  | some ⟨index + 1⟩ =>
    have added : (context.addStream name).2.queue? (some ⟨index + 1⟩) =
        (context.streams ++ [⟨name, [], none⟩])[index]? := rfl
    simp only [added, queue?_succ, getElem?_concat, stream_succ_iff]

end Context

/-! ### The journal of all queues -/

/-- What a journal has of the queues of a device: that one was added for a stream, or that something
happened to the one that a choice of stream selects. -/
inductive Entry where
  | added (stream : StreamId) (name : String)
  | happened (target : Option StreamId) (event : QueueEvent)

namespace Entry

def added? : Entry → Option (StreamId × String)
  | .added stream name => some (stream, name)
  | .happened _ _ => none

def event? (target : Option StreamId) : Entry → Option QueueEvent
  | .added _ _ => none
  | .happened other event => if other = target then some event else none

def ofExchange : Exchange Module Program → List Entry
  | ⟨.dispatch submission, answer⟩ =>
    match (answer : Except DriverError Unit) with
    | .ok () => [.happened submission.stream (.accepted (Launch.recordOf submission))]
    | .error _ => []
  | _ => []

end Entry

/-- The streams that were added, each with the name of its queue. -/
def streamsIn (journal : List Entry) : List (StreamId × String) := journal.filterMap Entry.added?

def eventsOf (target : Option StreamId) (journal : List Entry) : List QueueEvent :=
  journal.filterMap (Entry.event? target)

/-- Streams are numbered from one, a choice of stream that no queue answers to is nowhere in the journal,
and every queue follows what the journal has of it. -/
structure Journaled (journal : List Entry) (context : Context) : Prop where
  streams : ∀ index, (streamsIn journal)[index]? =
    (context.queue? (some ⟨index + 1⟩)).map fun queue => (⟨index + 1⟩, queue.name)
  silent : ∀ target, context.queue? target = none → eventsOf target journal = []
  follows : ∀ target queue, context.queue? target = some queue → queue.Follows (eventsOf target journal)
  sound : ∀ target record, .accepted record ∈ eventsOf target journal →
    Expressible record.workgroup record.grid

section
variable {journal : List Entry} {context after : Context}

theorem streamsIn_happened (target : Option StreamId) (event : QueueEvent) :
    streamsIn (journal ++ [.happened target event]) = streamsIn journal := by
  rw [streamsIn, List.filterMap_append]
  exact List.append_nil _

theorem streamsIn_added (stream : StreamId) (name : String) :
    streamsIn (journal ++ [.added stream name]) = streamsIn journal ++ [(stream, name)] := by
  rw [streamsIn, List.filterMap_append]
  rfl

theorem eventsOf_added (target : Option StreamId) (stream : StreamId) (name : String) :
    eventsOf target (journal ++ [.added stream name]) = eventsOf target journal := by
  rw [eventsOf, List.filterMap_append]
  exact List.append_nil _

theorem eventsOf_happened (target : Option StreamId) (event : QueueEvent) :
    eventsOf target (journal ++ [.happened target event]) = eventsOf target journal ++ [event] := by
  rw [eventsOf, List.filterMap_append]
  simp only [List.filterMap_cons, Entry.event?, if_true, List.filterMap_nil]
  rfl

theorem eventsOf_elsewhere {target other : Option StreamId} (apart : other ≠ target) (event : QueueEvent) :
    eventsOf other (journal ++ [.happened target event]) = eventsOf other journal := by
  rw [eventsOf, List.filterMap_append]
  simp only [List.filterMap_cons, Entry.event?, if_neg apart.symm, List.filterMap_nil]
  exact List.append_nil _

namespace Journaled

theorem congr (journaled : Journaled journal context)
    (same : ∀ target, after.queue? target = context.queue? target) : Journaled journal after where
  streams := by
    intro index
    rw [same]
    exact journaled.streams index
  silent := by
    intro target
    rw [same]
    exact journaled.silent target
  follows := by
    intro target queue
    rw [same]
    exact journaled.follows target queue
  sound := journaled.sound

theorem length_streamsIn (journaled : Journaled journal context) :
    (streamsIn journal).length = context.streams.length := by
  have told (index : Nat) : (streamsIn journal).length ≤ index ↔ context.streams.length ≤ index := by
    rw [← List.getElem?_eq_none_iff, ← List.getElem?_eq_none_iff, journaled.streams,
      Option.map_eq_none_iff, Context.queue?_succ]
  have fewer := told context.streams.length
  have more := told (streamsIn journal).length
  omega

theorem happened (journaled : Journaled journal context) {target : Option StreamId} {queue : Queue}
    (chosen : context.queue? target = some queue) (event : QueueEvent)
    (sound : ∀ record, event = .accepted record → Expressible record.workgroup record.grid) :
    Journaled (journal ++ [.happened target event]) (context.updateQueue target event.apply) where
  streams := by
    intro index
    rw [streamsIn_happened, journaled.streams]
    by_cases here : some ⟨index + 1⟩ = target
    · rw [here, Context.queue?_updateQueue, chosen, Option.map_some, Option.map_some, Option.map_some,
        event.name_apply]
    · rw [context.queue?_updateQueue_of_ne here]
  silent := by
    intro other missing
    by_cases here : other = target
    · rw [here, Context.queue?_updateQueue, chosen] at missing
      cases missing
    · rw [context.queue?_updateQueue_of_ne here] at missing
      rw [eventsOf_elsewhere here]
      exact journaled.silent other missing
  follows := by
    intro other found present
    by_cases here : other = target
    · subst here
      rw [Context.queue?_updateQueue, chosen, Option.map_some] at present
      obtain rfl := Option.some.inj present
      rw [eventsOf_happened]
      exact (journaled.follows other queue chosen).concat event
    · rw [context.queue?_updateQueue_of_ne here] at present
      rw [eventsOf_elsewhere here]
      exact journaled.follows other found present
  sound := by
    intro other record told
    by_cases here : other = target
    · subst here
      rw [eventsOf_happened] at told
      rcases List.mem_append.mp told with before | last
      · exact journaled.sound other record before
      · exact sound record (List.mem_singleton.mp last).symm
    · rw [eventsOf_elsewhere here] at told
      exact journaled.sound other record told

theorem addStream (journaled : Journaled journal context) (name : String) :
    Journaled (journal ++ [.added ⟨context.streams.length + 1⟩ name]) (context.addStream name).2 := by
  have absent : context.queue? (some ⟨context.streams.length + 1⟩) = none :=
    List.getElem?_eq_none (Nat.le_refl _)
  constructor
  case streams =>
    intro index
    rw [streamsIn_added, getElem?_concat, Context.queue?_addStream, journaled.length_streamsIn,
      journaled.streams]
    simp only [stream_succ_iff]
    split
    · rename_i here
      rw [here]
      rfl
    · rfl
  case silent =>
    intro target missing
    rw [Context.queue?_addStream] at missing
    split at missing
    · cases missing
    · rw [eventsOf_added]
      exact journaled.silent target missing
  case follows =>
    intro target queue present
    rw [Context.queue?_addStream] at present
    rw [eventsOf_added]
    split at present
    · rename_i here
      obtain rfl := Option.some.inj present
      rw [here, journaled.silent _ absent]
      exact ⟨rfl, rfl⟩
    · exact journaled.follows target queue present
  case sound =>
    intro target record told
    rw [eventsOf_added] at told
    exact journaled.sound target record told

theorem recorded (journaled : Journaled journal context) {target : Option StreamId} {queue : Queue}
    (chosen : context.queue? target = some queue) {record : DispatchRecord}
    (expressible : Expressible record.workgroup record.grid) :
    Journaled (journal ++ [.happened target (.accepted record)]) (context.recorded target record) := by
  apply journaled.happened chosen (.accepted record)
  intro other same
  cases same
  exact expressible

theorem answer {host : HostSession} (journaled : Journaled journal host.context)
    (request : Request Module Program) :
    Journaled (journal ++ Entry.ofExchange ⟨request, (HostSession.answer request host).1⟩)
      (HostSession.answer request host).2.context := by
  cases request with
  | dispatch submission =>
    rcases host.context.dispatch_cases submission.stream submission.code submission.kernargs
      submission.workgroup submission.grid with ⟨cause, refused⟩ | ⟨queue, chosen, working, expressible⟩
    · simp only [HostSession.answer, refused, Entry.ofExchange, List.append_nil]
      exact journaled
    · have accepted := Context.dispatch_working chosen working expressible submission.code submission.kernargs
      simp only [HostSession.answer, accepted]
      exact journaled.recorded chosen expressible
  | allocate index block =>
    obtain ⟨regions, after⟩ := host.context.allocate_regions index block
    simp only [Entry.ofExchange, List.append_nil, HostSession.answer, after]
    exact journaled.congr (Context.queue?_congr rfl rfl)
  | free index buffer =>
    obtain ⟨regions, after⟩ := host.context.free_regions index buffer
    simp only [Entry.ofExchange, List.append_nil, HostSession.answer, after]
    exact journaled.congr (Context.queue?_congr rfl rfl)
  | finalize program agent handle offset =>
    simp only [Entry.ofExchange, List.append_nil, HostSession.answer]
    cases finalized : host.context.finalize program agent handle offset with
    | error cause => exact journaled
    | ok issued =>
      obtain ⟨finalizer, after⟩ := host.context.finalize_finalizer finalized
      simp only [after]
      exact journaled.congr (Context.queue?_congr rfl rfl)
  | createProgram agents =>
    simp only [Entry.ofExchange, List.append_nil]
    exact journaled.congr (Context.queue?_congr rfl rfl)
  | _ =>
    simp only [Entry.ofExchange, List.append_nil]
    exact journaled

/-- The journal goes on over a whole dialogue, with the dispatches accepted in it. -/
theorem run {α : Type} {host : HostSession} (journaled : Journaled journal host.context)
    (dialogue : Dialogue Module Program α) :
    Journaled (journal ++ (dialogue.exchanges HostSession.answer host).flatMap Entry.ofExchange)
      (dialogue.run HostSession.answer host).2.context := by
  apply Dialogue.exchanges_keep (motive := fun journal (host : HostSession) =>
    Journaled journal host.context) _ journaled
  intro journal host journaled request
  exact journaled.answer request

end Journaled
end

/-! ### What the steps of a session do to queues -/

namespace Session

def codeOf? (session : Session) : CodeChoice → Option CodeDescriptor
  | .known place => session.codes[place]?
  | .given code => some code

/-- The record of a dispatch, from what the client has when it submits it. -/
def offered? (session : Session) (place : Nat) (grid : Dims) (workgroup : Option Dims)
    (choice : CodeChoice) : Option DispatchRecord :=
  match session.buffers[place]?, session.codeOf? choice with
  | some buffer, some code => some ⟨code, buffer.address, buffer.bytes, workgroup, grid⟩
  | _, _ => none

/-- The event is told if the step was done. -/
def told (session : Session) (step : Step) (target : Option StreamId) (event : QueueEvent) : List Entry :=
  match (session.step step).1 with
  | .done => [.happened target event]
  | _ => []

/-- What a step adds to the journal of the device. -/
def journal (session : Session) : Step → List Entry
  | .addStream name =>
    match (session.step (.addStream name)).1 with
    | .number number => [.added ⟨number⟩ name]
    | _ => []
  | .dispatch target place grid workgroup choice =>
    match session.offered? place grid workgroup choice with
    | none => []
    | some record => session.told (.dispatch target place grid workgroup choice) target (.accepted record)
  | .failDispatches target reason => session.told (.failDispatches target reason) target (.failing reason)
  | .clearFailure target => session.told (.clearFailure target) target .mended
  | .clearRecords target => session.told (.clearRecords target) target .cleared
  | .launch kernel arguments homes =>
    (session.exchanged kernel arguments homes).flatMap Entry.ofExchange
  | _ => []

section
variable {session : Session} {target : Option StreamId} {place : Nat} {grid : Dims} {workgroup : Option Dims}
  {choice : CodeChoice} {queue : Queue} {record : DispatchRecord}

theorem offered?_eq_some (offered : session.offered? place grid workgroup choice = some record) :
    ∃ buffer code, session.buffers[place]? = some buffer ∧ session.codeOf? choice = some code ∧
      record = ⟨code, buffer.address, buffer.bytes, workgroup, grid⟩ := by
  simp only [offered?] at offered
  split at offered
  · rename_i buffer code held known
    exact ⟨buffer, code, held, known, (Option.some.inj offered).symm⟩
  · cases offered

theorem step_dispatch {buffer : Buffer} {code : CodeDescriptor}
    (chosen : session.context.queue? target = some queue) (held : session.buffers[place]? = some buffer)
    (known : session.codeOf? choice = some code) :
    session.step (.dispatch target place grid workgroup choice) =
      session.submit target buffer grid workgroup code := by
  cases choice with
  | given other =>
    obtain rfl := Option.some.inj known
    simp only [step, withQueue, withItem, chosen, held]
  | known number =>
    have present : session.codes[number]? = some code := known
    simp only [step, withQueue, withItem, chosen, held, present]

theorem dispatch_working (chosen : session.context.queue? target = some queue)
    (offered : session.offered? place grid workgroup choice = some record)
    (working : queue.failure = none) (expressible : Expressible workgroup grid) :
    session.step (.dispatch target place grid workgroup choice) =
      (.done, { session with context := session.context.recorded target record }, []) := by
  obtain ⟨buffer, code, held, known, rfl⟩ := offered?_eq_some offered
  rw [step_dispatch chosen held known, submit, Context.dispatch_working chosen working expressible]

theorem dispatch_refused (chosen : session.context.queue? target = some queue)
    (offered : session.offered? place grid workgroup choice = some record)
    (refused : ¬(queue.failure = none ∧ Expressible workgroup grid)) :
    ∃ reason, session.step (.dispatch target place grid workgroup choice) =
      (.refused (.dispatchFailed reason), session, []) := by
  rw [← Queue.refusal?_eq_none_iff] at refused
  obtain ⟨reason, told⟩ := Option.ne_none_iff_exists'.mp refused
  obtain ⟨buffer, code, held, known, rfl⟩ := offered?_eq_some offered
  refine ⟨reason, ?_⟩
  rw [step_dispatch chosen held known, submit, Context.dispatch_refused chosen told]

theorem step_unoffered (chosen : session.context.queue? target = some queue)
    (unoffered : session.offered? place grid workgroup choice = none) :
    (session.step (.dispatch target place grid workgroup choice)).2.1 = session := by
  cases held : session.buffers[place]? with
  | none => simp only [step, withQueue, withItem, chosen, held]
  | some buffer =>
    cases choice with
    | given code =>
      have offered : session.offered? place grid workgroup (.given code) =
          some ⟨code, buffer.address, buffer.bytes, workgroup, grid⟩ := by
        simp only [offered?, held, codeOf?]
      rw [unoffered] at offered
      cases offered
    | known number =>
      cases present : session.codes[number]? with
      | none => simp only [step, withQueue, withItem, chosen, held, present]
      | some code =>
        simp only [offered?, held, codeOf?, present] at unoffered
        cases unoffered

/-- A dispatch changes nothing and is not in the journal, or there is a queue that takes it. -/
theorem dispatch_cases (session : Session) (target : Option StreamId) (place : Nat) (grid : Dims)
    (workgroup : Option Dims) (choice : CodeChoice) :
    ((session.step (.dispatch target place grid workgroup choice)).2.1 = session ∧
      session.journal (.dispatch target place grid workgroup choice) = []) ∨
    ∃ queue record, session.context.queue? target = some queue ∧
      session.offered? place grid workgroup choice = some record ∧ queue.failure = none ∧
      Expressible workgroup grid := by
  cases chosen : session.context.queue? target with
  | none =>
    left
    have missing : session.step (.dispatch target place grid workgroup choice) =
        (.missing .queue, session, []) := by
      simp only [step, withQueue, chosen]
    refine ⟨by rw [missing], ?_⟩
    simp only [journal, told, missing]
    split <;> rfl
  | some queue =>
    cases offered : session.offered? place grid workgroup choice with
    | none =>
      left
      refine ⟨step_unoffered chosen offered, ?_⟩
      simp only [journal, offered]
    | some record =>
      by_cases accepted : queue.failure = none ∧ Expressible workgroup grid
      · exact .inr ⟨queue, record, rfl, rfl, accepted⟩
      · left
        obtain ⟨reason, refused⟩ := dispatch_refused chosen offered accepted
        refine ⟨by rw [refused], ?_⟩
        simp only [journal, offered, told, refused]

theorem journaled_changeQueue {journal : List Entry} (journaled : Journaled journal session.context)
    {step : Step} {event : QueueEvent} (changes : session.step step = session.changeQueue target event.apply)
    (unaccepted : event.record? = none) :
    Journaled (journal ++ session.told step target event) (session.step step).2.1.context := by
  rw [told, changes, changeQueue]
  cases chosen : session.context.queue? target with
  | none =>
    simp only [withQueue, chosen, List.append_nil]
    exact journaled
  | some queue =>
    simp only [withQueue, chosen]
    apply journaled.happened chosen event
    intro record same
    rw [same] at unaccepted
    cases unaccepted

end

theorem queue?_step {session : Session} {step : Step} (apart : step.part.covers .queues = false)
    (target : Option StreamId) :
    (session.step step).2.1.context.queue? target = session.context.queue? target := by
  let seen (context : Context) : Option Queue := context.queue? target
  cases part : step.part with
  | nothing => rw [context_step part]
  | regions => exact regions_unseen seen (fun _ _ => Context.queue?_congr rfl rfl target) part
  | finalizer => exact finalizer_unseen seen (fun _ _ => Context.queue?_congr rfl rfl target) part
  | queues | everything =>
    rw [part] at apart
    cases apart

theorem journaled_step {session : Session} {journal : List Entry}
    (journaled : Journaled journal session.context) (step : Step) :
    Journaled (journal ++ session.journal step) (session.step step).2.1.context := by
  cases step with
  | addStream name => exact journaled.addStream name
  | dispatch target place grid workgroup choice =>
    rcases session.dispatch_cases target place grid workgroup choice with
      ⟨same, untold⟩ | ⟨queue, record, chosen, offered, working, expressible⟩
    · rw [same, untold, List.append_nil]
      exact journaled
    · have accepted := dispatch_working chosen offered working expressible
      simp only [Session.journal, offered, told, accepted]
      obtain ⟨buffer, code, _, _, rfl⟩ := offered?_eq_some offered
      exact journaled.recorded chosen expressible
  | failDispatches target reason => exact journaled_changeQueue journaled rfl rfl
  | clearFailure target => exact journaled_changeQueue journaled rfl rfl
  | clearRecords target => exact journaled_changeQueue journaled rfl rfl
  | launch kernel arguments homes =>
    rw [context_launch, Session.journal, exchanged]
    cases session.kernels[kernel]? with
    | none =>
      rw [List.flatMap_nil, List.append_nil]
      exact journaled
    | some kernel => exact journaled.run (KernelLaunch.launch (kernel.order arguments homes))
  | _ =>
    simp only [Session.journal, List.append_nil]
    exact journaled.congr (queue?_step rfl)

/-- A launch that ends well adds one record, to the queue it was configured for; any other leaves all
queues as they are. -/
theorem queue?_launch (context : Context) (order : LaunchOrder) :
    ((context.launch order).1 = .ok () →
      ∃ queue record, context.queue? order.configuration.stream = some queue ∧ queue.failure = none ∧
        Expressible record.workgroup record.grid ∧
        ∀ target, (context.launch order).2.1.queue? target =
          (context.recorded order.configuration.stream record).queue? target) ∧
    ((context.launch order).1 ≠ .ok () →
      ∀ target, (context.launch order).2.1.queue? target = context.queue? target) := by
  have course := Launch.launch_course context order
  generalize (context.launch order).1 = outcome, (context.launch order).2.1 = after at course ⊢
  cases course with
  | @ok queue table offset index region block address slots bytes filled accepted =>
    refine ⟨?_, fun differs => absurd rfl differs⟩
    intro _
    obtain ⟨working, expressible⟩ := Queue.refusal?_eq_none_iff.mp accepted
    refine ⟨queue, Launch.recordOf (Launch.submissionOf order (context.nextCode offset)
      (Launch.kernargs region address block bytes) slots), filled.chosen, working, expressible, ?_⟩
    intro target
    rw [Context.recorded, ← Context.updateQueue_setRegion, Context.recorded]
    apply Context.queue?_updateQueue_congr
    exact Context.queue?_congr rfl rfl
  | _ =>
    refine ⟨?_, ?_⟩
    · intro ended
      cases ended
    · intro _ target
      exact Context.queue?_congr rfl rfl target

/-- A launch whose dispatch is refused is refused by the queue that it was configured for. -/
theorem refused_launch {context : Context} {order : LaunchOrder} {name : String} {cause : DriverError}
    (refused : (context.launch order).1 = Launch.refuse (.dispatch name cause)) :
    ∃ queue, context.queue? order.configuration.stream = some queue ∧
      ¬(queue.failure = none ∧
        Expressible order.configuration.geometry.workgroup order.configuration.geometry.global) := by
  have course := Launch.launch_course context order
  generalize (context.launch order).1 = outcome, (context.launch order).2.1 = after at course refused
  cases course with
  | dispatch filled verdict =>
    refine ⟨_, filled.chosen, ?_⟩
    rw [← Queue.refusal?_eq_none_iff, verdict]
    nofun
  | _ => cases refused

/-- The queues of the session are as the journal has them, and dispatches are taken or refused by what it
has of the queue they are for. -/
structure Recorded (session : Session) (journal : List Entry) : Prop where
  handles : ∀ index stream name, (streamsIn journal)[index]? = some (stream, name) →
    stream = ⟨index + 1⟩ ∧ ∃ queue, session.context.queue? (some stream) = some queue ∧ queue.name = name
  others : ∀ stream, (session.context.queue? (some stream)).isSome ↔
    1 ≤ stream.number ∧ stream.number ≤ (streamsIn journal).length
  next : ∀ name, (session.step (.addStream name)).1 = .number ((streamsIn journal).length + 1)
  records : ∀ target queue, session.context.queue? target = some queue →
    queue.records = standingRecords (eventsOf target journal)
  failure : ∀ target queue, session.context.queue? target = some queue →
    queue.failure = standingFailure (eventsOf target journal)
  expressible : ∀ target queue, session.context.queue? target = some queue →
    ∀ record ∈ queue.records, Expressible record.workgroup record.grid
  takes : ∀ target queue place grid workgroup choice record, session.context.queue? target = some queue →
    session.offered? place grid workgroup choice = some record →
    standingFailure (eventsOf target journal) = none → Expressible workgroup grid →
    session.step (.dispatch target place grid workgroup choice) =
      (.done, { session with context := session.context.recorded target record }, [])
  refuses : ∀ target queue place grid workgroup choice record, session.context.queue? target = some queue →
    session.offered? place grid workgroup choice = some record →
    ¬(standingFailure (eventsOf target journal) = none ∧ Expressible workgroup grid) →
    ∃ reason, session.step (.dispatch target place grid workgroup choice) =
      (.refused (.dispatchFailed reason), session, [])
  launches : ∀ order : LaunchOrder, (session.context.launch order).1 = .ok () →
    ∃ record, standingFailure (eventsOf order.configuration.stream journal) = none ∧
      Expressible record.workgroup record.grid ∧
      ∀ target, (session.context.launch order).2.1.queue? target =
        (session.context.recorded order.configuration.stream record).queue? target
  fails : ∀ order : LaunchOrder, (session.context.launch order).1 ≠ .ok () →
    ∀ target, (session.context.launch order).2.1.queue? target = session.context.queue? target
  blames : ∀ order name cause, (session.context.launch order).1 = Launch.refuse (.dispatch name cause) →
    ¬(standingFailure (eventsOf order.configuration.stream journal) = none ∧
      Expressible order.configuration.geometry.workgroup order.configuration.geometry.global)

theorem recorded_of_journaled {session : Session} {journal : List Entry}
    (journaled : Journaled journal session.context) : session.Recorded journal where
  handles := by
    intro index stream name told
    rw [journaled.streams] at told
    obtain ⟨queue, chosen, same⟩ := Option.map_eq_some_iff.mp told
    cases same
    exact ⟨rfl, queue, chosen, rfl⟩
  others := by
    intro stream
    match stream with
    | ⟨0⟩ => exact ⟨nofun, fun numbered => absurd numbered.1 (by decide)⟩
    | ⟨index + 1⟩ =>
      rw [Context.queue?_succ, Option.isSome_iff_ne_none, ne_eq, List.getElem?_eq_none_iff,
        journaled.length_streamsIn]
      dsimp only
      omega
  next := by
    intro name
    rw [journaled.length_streamsIn]
    rfl
  records := fun target queue chosen => (journaled.follows target queue chosen).records
  failure := fun target queue chosen => (journaled.follows target queue chosen).failure
  expressible := by
    intro target queue chosen record kept
    rw [(journaled.follows target queue chosen).records] at kept
    obtain ⟨event, told, same⟩ := List.mem_filterMap.mp kept
    have before := afterLast_subset _ _ told
    cases event with
    | accepted other =>
      obtain rfl := Option.some.inj same
      exact journaled.sound target other before
    | cleared | failing | mended => cases same
  takes := by
    intro target queue place grid workgroup choice record chosen offered working expressible
    rw [← (journaled.follows target queue chosen).failure] at working
    exact dispatch_working chosen offered working expressible
  refuses := by
    intro target queue place grid workgroup choice record chosen offered refused
    rw [← (journaled.follows target queue chosen).failure] at refused
    exact dispatch_refused chosen offered refused
  launches := by
    intro order ended
    obtain ⟨queue, record, chosen, working, expressible, after⟩ :=
      (queue?_launch session.context order).1 ended
    rw [(journaled.follows _ queue chosen).failure] at working
    exact ⟨record, working, expressible, after⟩
  fails := fun order => (queue?_launch session.context order).2
  blames := by
    intro order name cause refused
    obtain ⟨queue, chosen, declined⟩ := refused_launch refused
    rw [← (journaled.follows _ queue chosen).failure]
    exact declined

/-- A session with a device of which no queue has been used and no stream was added. -/
def unused (context : Context) : Session :=
  { context := { context with defaultQueue := { name := context.defaultQueue.name }, streams := [] } }

theorem journaled_unused (context : Context) : Journaled [] (unused context).context where
  streams := fun _ => rfl
  silent := fun _ _ => rfl
  follows := by
    intro target queue chosen
    match target with
    | none =>
      obtain rfl := Option.some.inj chosen
      exact ⟨rfl, rfl⟩
    | some ⟨0⟩ => cases chosen
    | some ⟨index + 1⟩ => cases chosen
  sound := nofun

/-- However streams, launches, dispatches, writes and failures follow one another on a device, each of its
queues holds what was accepted for it, as it was then, and is affected by nothing that happens to another. -/
theorem queues_recorded (context : Context) (steps : List Step) :
    ((unused context).after steps).Recorded ((unused context).history journal steps) := by
  apply recorded_of_journaled
  exact history_keeps (motive := fun journal session => Journaled journal session.context) journaled_step
    (journaled_unused context) steps

/-- A record keeps the bytes that a later write changes. -/
example :
    ((unused .standard).after
        [.allocate "kernarg" ⟨4, 4⟩, .dispatch none 0 ⟨[8]⟩ none (.given ⟨1, 64, "host-agent"⟩),
          .write 0 1 [7], .dispatch none 0 ⟨[8]⟩ none (.given ⟨1, 64, "host-agent"⟩)]).context.defaultQueue.records.map
      DispatchRecord.kernargs = [[0, 0, 0, 0], [0, 7, 0, 0]] := by decide

end Session
end KernelLaunch
