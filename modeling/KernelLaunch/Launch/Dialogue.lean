import KernelLaunch.Dims
import KernelLaunch.Driver.Error
import KernelLaunch.Driver.Handle
import KernelLaunch.Telemetry.Event

/-! A launch as a dialogue with a driver. The dialogue holds every request in order and goes on
from whatever is answered; it assumes nothing of the driver, so what holds of every dialogue holds
on every device, also on one that refuses or answers wrongly. -/

namespace KernelLaunch

structure RegionInfo where
  name : String
  kernargs : Bool
  deriving DecidableEq

structure AgentInfo where
  name : String
  regions : List RegionInfo
  deriving DecidableEq

structure Submission where
  /-- The stream whose queue takes it; the default queue if there is none. -/
  stream : Option StreamId
  code : CodeDescriptor
  kernargs : Buffer
  workgroup : Option Dims
  grid : Dims
  /-- The descriptors that the argument bytes lead to, kept until the buffer has been freed. -/
  descriptors : List Descriptor
  deriving DecidableEq

/-- A request to a driver with modules of type `M` and programs of type `P`. -/
inductive Request (M P : Type) where
  | clock
  | report (event : Event)
  | defaultQueue
  | queue (stream : StreamId)
  | loadModule (image : Bytes)
  | findSymbol (code : M) (symbol : String)
  | agent
  | createProgram (agents : List String)
  | addModule (program : P) (code : M)
  | finalize (program : P) (agent : String) (handle : ModuleHandle) (offset : UInt64)
  | allocate (region : Nat) (block : Block)
  | dispatch (submission : Submission)
  | free (region : Nat) (buffer : Buffer)

def Request.Answer {M P : Type} : Request M P → Type
  /- Microseconds since some moment. -/
  | .clock => Nat
  | .report _ => Unit
  | .defaultQueue => Unit
  /- Whether the stream has a queue. -/
  | .queue _ => Bool
  | .loadModule _ => Except DriverError M
  | .findSymbol _ _ => Option UInt64
  | .agent => AgentInfo
  | .createProgram _ => Except DriverError P
  | .addModule _ _ => Except DriverError (ModuleHandle × P)
  | .finalize _ _ _ _ => Except DriverError CodeDescriptor
  | .allocate _ _ => Except DriverError Buffer
  | .dispatch _ => Except DriverError Unit
  | .free _ _ => Except DriverError Unit

inductive Dialogue (M P α : Type) where
  | done (value : α)
  | ask (request : Request M P) (next : request.Answer → Dialogue M P α)

namespace Dialogue

variable {M P α β γ : Type}

def bind (dialogue : Dialogue M P α) (next : α → Dialogue M P β) : Dialogue M P β :=
  match dialogue with
  | .done value => next value
  | .ask request rest => .ask request fun answer => (rest answer).bind next

instance : Monad (Dialogue M P) where
  pure := .done
  bind := .bind

def request (request : Request M P) : Dialogue M P request.Answer := .ask request .done

theorem bind_done (dialogue : Dialogue M P α) : dialogue.bind .done = dialogue := by
  induction dialogue with
  | done value => rfl
  | ask request rest ih => exact congrArg (Dialogue.ask request) (funext ih)

theorem bind_assoc (dialogue : Dialogue M P α) (first : α → Dialogue M P β)
    (second : β → Dialogue M P γ) :
    (dialogue.bind first).bind second = dialogue.bind fun value => (first value).bind second := by
  induction dialogue with
  | done value => rfl
  | ask request rest ih => exact congrArg (Dialogue.ask request) (funext ih)

/-- Holds the dialogue with a driver in some state and gives its value and the driver's last
state. -/
def run {σ : Type} (answer : (request : Request M P) → σ → request.Answer × σ) :
    Dialogue M P α → σ → α × σ
  | .done value, state => (value, state)
  | .ask request next, state =>
    let (reply, after) := answer request state
    (next reply).run answer after

/-- Running two dialogues one after the other is running them joined. -/
theorem run_bind {σ : Type} (answer : (request : Request M P) → σ → request.Answer × σ)
    (dialogue : Dialogue M P α) (next : α → Dialogue M P β) (state : σ) :
    (dialogue.bind next).run answer state =
      (next (dialogue.run answer state).1).run answer (dialogue.run answer state).2 := by
  induction dialogue generalizing state with
  | done value => rfl
  | ask request rest ih => exact ih ..

end Dialogue
end KernelLaunch
