import KernelLaunch.Launch.Dialogue

/-! What dialogues exchange with a driver. A transcript allows every answer that a request can have,
so what holds of all transcripts of a dialogue holds on every device: a device only chooses among
them. -/

namespace KernelLaunch

structure Exchange (M P : Type) where
  request : Request M P
  answer : request.Answer

/-! ### Logs -/

section
variable {α : Type} [DecidableEq α] {mark entry : α}

/-- What a log tells since the last time it tells the mark. -/
def afterLast (mark : α) (log : List α) : List α := (log.reverse.takeWhile (· ≠ mark)).reverse

theorem afterLast_concat (other : entry ≠ mark) (log : List α) :
    afterLast mark (log ++ [entry]) = afterLast mark log ++ [entry] := by
  rw [afterLast, List.reverse_concat, List.takeWhile_cons, if_pos (decide_eq_true other),
    List.reverse_cons]
  rfl

theorem afterLast_mark (log : List α) : afterLast mark (log ++ [mark]) = [] := by
  rw [afterLast, List.reverse_concat, List.takeWhile_cons, if_neg (by simp), List.reverse_nil]

theorem afterLast_subset (mark : α) (log : List α) : afterLast mark log ⊆ log := by
  intro entry told
  exact List.mem_reverse.mp (List.takeWhile_subset _ (List.mem_reverse.mp told))

end

namespace Dialogue

variable {M P α β σ : Type}

/-- The exchanges that a dialogue can have, and the value with which it then ends. -/
inductive Transcript : Dialogue M P α → List (Exchange M P) → α → Prop where
  | done (value : α) : Transcript (.done value) [] value
  | ask {request : Request M P} {next : request.Answer → Dialogue M P α} {rest : List (Exchange M P)}
      {value : α} (answer : request.Answer) (continued : Transcript (next answer) rest value) :
      Transcript (.ask request next) (⟨request, answer⟩ :: rest) value

def exchanges (answer : (request : Request M P) → σ → request.Answer × σ) :
    Dialogue M P α → σ → List (Exchange M P)
  | .done _, _ => []
  | .ask request next, state =>
    let (reply, after) := answer request state
    ⟨request, reply⟩ :: (next reply).exchanges answer after

/-- Whatever a driver answers, its exchanges are a transcript. -/
theorem transcript_run (answer : (request : Request M P) → σ → request.Answer × σ)
    (dialogue : Dialogue M P α) (state : σ) :
    Transcript dialogue (dialogue.exchanges answer state) (dialogue.run answer state).1 := by
  induction dialogue generalizing state with
  | done value => exact .done value
  | ask request next ih => exact .ask _ (ih _ _)

/-- What every answer keeps, with what is told of it, a whole dialogue keeps. -/
theorem exchanges_keep {answer : (request : Request M P) → σ → request.Answer × σ}
    {told : Exchange M P → List β} {motive : List β → σ → Prop}
    (keeps : ∀ {log state}, motive log state →
      ∀ request, motive (log ++ told ⟨request, (answer request state).1⟩) (answer request state).2)
    {log : List β} {state : σ} (holds : motive log state) (dialogue : Dialogue M P α) :
    motive (log ++ (dialogue.exchanges answer state).flatMap told) (dialogue.run answer state).2 := by
  induction dialogue generalizing log state with
  | done value =>
    rw [exchanges, List.flatMap_nil, List.append_nil]
    exact holds
  | ask request next ih =>
    rw [exchanges, List.flatMap_cons, ← List.append_assoc]
    exact ih _ (keeps holds request)

theorem Transcript.of_bind {dialogue : Dialogue M P α} {next : α → Dialogue M P β}
    {log : List (Exchange M P)} {result : β} (held : Transcript (dialogue.bind next) log result) :
    ∃ first value rest, log = first ++ rest ∧ Transcript dialogue first value ∧
      Transcript (next value) rest result := by
  induction dialogue generalizing log with
  | done value => exact ⟨[], value, log, rfl, .done value, held⟩
  | ask request continuation ih =>
    cases held with
    | ask answer continued =>
      obtain ⟨first, value, rest, rfl, before, after⟩ := ih answer continued
      exact ⟨⟨request, answer⟩ :: first, value, rest, rfl, .ask answer before, after⟩

/-- Every transcript of a dialogue satisfies `post`, of which only the exchanges that matter are
told. -/
def Ends (matters : Exchange M P → Bool) (post : List (Exchange M P) → α → Prop)
    (dialogue : Dialogue M P α) : Prop :=
  ∀ log value, Transcript dialogue log value → post (log.filter matters) value

variable {matters : Exchange M P → Bool}

theorem Ends.pure {post : List (Exchange M P) → α → Prop} {value : α} (holds : post [] value) :
    Ends matters post (Pure.pure value : Dialogue M P α) := by
  intro log result held
  cases held with
  | done => exact holds

theorem Ends.request {request : Request M P} {post : List (Exchange M P) → request.Answer → Prop}
    (told : ∀ answer, matters ⟨request, answer⟩ = true)
    (holds : ∀ answer, post [⟨request, answer⟩] answer) :
    Ends matters post (Dialogue.request request) := by
  intro log result held
  cases held with
  | ask answer continued =>
    cases continued with
    | done =>
      rw [List.filter_cons_of_pos (told _)]
      exact holds _

theorem Ends.weaken {first post : List (Exchange M P) → α → Prop} {dialogue : Dialogue M P α}
    (ends : Ends matters first dialogue) (implies : ∀ told value, first told value → post told value) :
    Ends matters post dialogue :=
  fun log value held => implies _ value (ends log value held)

theorem Ends.bind {first : List (Exchange M P) → α → Prop} {post : List (Exchange M P) → β → Prop}
    {dialogue : Dialogue M P α} {next : α → Dialogue M P β} (ends : Ends matters first dialogue)
    (resume : ∀ told value, first told value →
      Ends matters (fun later result => post (told ++ later) result) (next value)) :
    Ends matters post (dialogue >>= next) := by
  intro log result held
  obtain ⟨before, value, after, rfl, start, rest⟩ := Transcript.of_bind held
  rw [List.filter_append]
  exact resume _ value (ends before value start) after result rest

/-- A request that matters is told before all that follows it. -/
theorem Ends.ask {request : Request M P} {post : List (Exchange M P) → β → Prop}
    {next : request.Answer → Dialogue M P β} (told : ∀ answer, matters ⟨request, answer⟩ = true)
    (resume : ∀ answer,
      Ends matters (fun later result => post (⟨request, answer⟩ :: later) result) (next answer)) :
    Ends matters post (Dialogue.request request >>= next) := by
  intro log result held
  cases held with
  | ask answer continued =>
    rw [List.filter_cons_of_pos (told _)]
    exact resume _ _ _ continued

abbrev Quiet (matters : Exchange M P → Bool) (dialogue : Dialogue M P α) : Prop :=
  Ends matters (fun told _ => told = []) dialogue

theorem Quiet.request {request : Request M P} (untold : ∀ answer, matters ⟨request, answer⟩ = false) :
    Quiet matters (Dialogue.request request) := by
  intro log result held
  cases held with
  | ask answer continued =>
    cases continued with
    | done => exact List.filter_cons_of_neg (by rw [untold _]; exact Bool.false_ne_true)

/-- Nothing is told of what comes first, so only what comes next counts. -/
theorem Quiet.bind {post : List (Exchange M P) → β → Prop} {dialogue : Dialogue M P α}
    {next : α → Dialogue M P β} (quiet : Quiet matters dialogue)
    (resume : ∀ value, Ends matters post (next value)) : Ends matters post (dialogue >>= next) := by
  refine Ends.bind quiet ?_
  rintro told value rfl
  exact resume value

end Dialogue
end KernelLaunch
