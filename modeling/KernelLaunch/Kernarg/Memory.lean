import KernelLaunch.Kernarg.Layout

/-! Argument memory while it is written in place. A write is several steps: its end is computed in words
and compared with the end of the memory, and then bytes are put into their place. What a step has put
stays there if a later step fails. -/

namespace KernelLaunch

inductive WriteFault where
  | refused (cause : MarshalError)
  | overflow (kind : Overflow)
  /-- Bytes would have been put behind the end of the memory. -/
  | outside (stop length : Nat)
  deriving DecidableEq

def WriteFault.message : WriteFault → String
  | .refused cause => cause.message
  | .overflow kind => kind.message
  | .outside stop length => s!"range end index {stop} out of range for slice of length {length}"

/-- Steps that change memory. A failure leaves the memory as the steps before it have left it. -/
abbrev Writing := ExceptT WriteFault (StateM Bytes)

namespace Writing

variable {α β : Type}

/-- How the steps end, and the memory as it is then. -/
def on (writing : Writing α) (memory : Bytes) : Except WriteFault α × Bytes := writing.run.run memory

def ofWords (computed : Except Overflow α) : Writing α :=
  match computed with
  | .ok value => pure value
  | .error kind => throw (.overflow kind)

/-- Refuses a part that does not end within the memory. -/
def checkBounds (offset size : Nat) : Writing Unit := do
  let stop ← ofWords (addWords offset size)
  let memory ← get
  if memory.length < stop then throw (.refused (.bufferTooSmall offset size memory.length))

/-- Puts bytes in the place of those from an offset on. -/
def put (offset : Nat) (content : Bytes) : Writing Unit := do
  let stop ← ofWords (addWords offset content.length)
  let memory ← get
  if memory.length < stop then throw (.outside stop memory.length)
  set (memory.take offset ++ content ++ memory.drop stop)

theorem on_bind (first : Writing α) (next : α → Writing β) (memory : Bytes) :
    (first >>= next).on memory =
      match first.on memory with
      | (.ok value, after) => (next value).on after
      | (.error fault, after) => (.error fault, after) := by
  unfold on ExceptT.run StateT.run
  simp only [bind, ExceptT.bind, ExceptT.mk, StateT.bind, ExceptT.bindCont]
  rcases first memory with ⟨outcome, after⟩
  cases outcome <;> rfl

theorem on_get (memory : Bytes) : (get : Writing Bytes).on memory = (.ok memory, memory) := rfl

theorem on_ofWords (value : α) (memory : Bytes) : (ofWords (.ok value)).on memory = (.ok value, memory) := rfl

end Writing

namespace Layout
open Writing

def clearReserved (layout : Layout) : Writing Unit := do
  let size ← ofWords (mulWords layout.injected slotSize)
  checkBounds 0 size
  put 0 (List.replicate size 0)

/-- Puts the cell of an argument into its range, and zeros into what is left of the range. -/
def store (layout : Layout) (index : Nat) (cell : Cell) : Writing Unit := do
  match layout.ranges[index]? with
  | none => throw (.refused (.noSuchArgument index layout.argumentCount))
  | some range =>
    if range.size < cell.size then throw (.refused (.cellTooLarge cell.size range.size index))
    checkBounds range.offset range.size
    put range.offset cell.bytes
    put (range.offset + cell.size) (List.replicate (range.size - cell.size) 0)

end Layout
end KernelLaunch
