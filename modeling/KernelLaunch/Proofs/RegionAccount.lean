import Mathlib.Data.List.Nodup
import KernelLaunch.Proofs.HostRun
import KernelLaunch.Proofs.Transcript

/-! The accounts that regions keep, against a log of what was handed out and given back. The log is
kept by whoever calls the device, so it says what the counters, the live buffers and the snapshots of
a region should be. Every answer of the device keeps the accounts, and with it every dialogue. -/

namespace KernelLaunch

/-- What happened to the buffers of the region at a place. -/
inductive Deed where
  | lent (place : Nat) (buffer : Buffer)
  | returned (place : Nat) (buffer : Buffer)
  | rejected (place : Nat) (buffer : Buffer)
  /-- The snapshots taken so far were forgotten. -/
  | cleared (place : Nat)
  deriving DecidableEq

namespace Deed

def place : Deed → Nat
  | .lent place _ | .returned place _ | .rejected place _ | .cleared place => place

def lentBy? (place : Nat) : Deed → Option LiveBuffer
  | .lent other buffer => if other = place then some (Region.entryOf buffer) else none
  | _ => none

def returnedTo? (place : Nat) : Deed → Option FreedBuffer
  | .returned other buffer => if other = place then some ⟨buffer.id, buffer.bytes⟩ else none
  | _ => none

def isRejectedBy (place : Nat) : Deed → Bool
  | .rejected other _ => other = place
  | _ => false

/-- What happens in one region is not told of another. -/
theorem of_elsewhere {deed : Deed} {place : Nat} (other : deed.place ≠ place) :
    deed.lentBy? place = none ∧ deed.returnedTo? place = none ∧ deed.isRejectedBy place = false := by
  cases deed with
  | lent _ buffer => exact ⟨if_neg other, rfl, rfl⟩
  | returned _ buffer => exact ⟨rfl, if_neg other, rfl⟩
  | rejected _ buffer => exact ⟨rfl, rfl, decide_eq_false other⟩
  | cleared => exact ⟨rfl, rfl, rfl⟩

/-- What an exchange with the device does to its buffers. -/
def ofExchange : Exchange Module Program → List Deed
  | ⟨.allocate place _, answer⟩ =>
    match (answer : Except DriverError Buffer) with
    | .ok buffer => [.lent place buffer]
    | .error _ => []
  | ⟨.free place buffer, answer⟩ =>
    match (answer : Except DriverError Unit) with
    | .ok () => [.returned place buffer]
    | .error _ => [.rejected place buffer]
  | _ => []

end Deed

/-! ### What a log says of a region -/

section
variable (place : Nat) (log : List Deed)

def handedOut : List LiveBuffer := log.filterMap (Deed.lentBy? place)

def takenBack : List FreedBuffer := log.filterMap (Deed.returnedTo? place)

def sinceCleared : List Deed := (log.reverse.takeWhile (· ≠ .cleared place)).reverse

end

/-- The buffers handed out and not taken back. -/
def outstanding (handed : List LiveBuffer) (taken : List FreedBuffer) : List LiveBuffer :=
  handed.filter fun entry => entry.id ∉ taken.map FreedBuffer.id

/-- A region's numbers and live buffers, by what it handed out and took back. -/
structure Tallied (handed : List LiveBuffer) (taken : List FreedBuffer) (region : Region) : Prop where
  numbered : handed.map LiveBuffer.id = List.range' 1 region.stats.allocations
  next : region.nextId = region.stats.allocations + 1
  live : region.live = outstanding handed taken
  frees : region.stats.frees = taken.length
  covered : region.stats.frees ≤ region.stats.allocations
  count : region.stats.live = (outstanding handed taken).length
  /-- No buffer is handed out again under the number of one that was taken back. -/
  past : ∀ buffer ∈ taken, buffer.id < region.nextId

/-- A region's counters, live buffers and snapshots are what the log says. -/
structure Accounted (place : Nat) (log : List Deed) (region : Region) : Prop
    extends Tallied (handedOut place log) (takenBack place log) region where
  rejected : region.stats.rejectedFrees = log.countP (Deed.isRejectedBy place)
  freed : region.freed = takenBack place (sinceCleared place log)

def Books (log : List Deed) (regions : List Region) : Prop :=
  ∀ place region, regions[place]? = some region → Accounted place log region

namespace Region

def reclaimed (region : Region) (buffer : Buffer) : Region :=
  { region with
    live := region.live.erase (entryOf buffer)
    stats := { region.stats with frees := region.stats.frees + 1 }
    freed := region.freed ++ [⟨buffer.id, buffer.bytes⟩] }

def declined (region : Region) : Region :=
  { region with stats := { region.stats with rejectedFrees := region.stats.rejectedFrees + 1 } }

end Region

/-! ### Numbers and live buffers -/

namespace Tallied

variable {handed : List LiveBuffer} {taken : List FreedBuffer} {region : Region}

theorem nodup_ids (tallied : Tallied handed taken region) : (region.live.map LiveBuffer.id).Nodup := by
  have all : (handed.map LiveBuffer.id).Nodup := by
    rw [tallied.numbered]
    exact List.nodup_range'
  rw [tallied.live]
  exact all.sublist (List.filter_sublist.map LiveBuffer.id)

theorem id_lt (tallied : Tallied handed taken region) {entry : LiveBuffer} (live : entry ∈ region.live) :
    entry.id < region.nextId := by
  rw [tallied.live] at live
  have numbered := List.mem_map_of_mem (f := LiveBuffer.id) (List.mem_filter.mp live).1
  rw [tallied.numbered, List.mem_range'_1] at numbered
  rw [tallied.next]
  omega

theorem balance (tallied : Tallied handed taken region) :
    region.live.length + region.stats.frees = region.stats.allocations := by
  have count := tallied.count
  have covered := tallied.covered
  rw [← tallied.live, RegionStats.live] at count
  omega

/-- Numbers tell live buffers apart, so taking one back leaves all those of another number. -/
theorem erase_eq_filter (tallied : Tallied handed taken region) {entry : LiveBuffer}
    (live : entry ∈ region.live) :
    region.live.erase entry = region.live.filter fun other => other.id ≠ entry.id := by
  have distinct := tallied.nodup_ids
  rw [List.Nodup.erase_eq_filter (List.Nodup.of_map _ distinct)]
  apply List.filter_congr
  intro other member
  have told : other ≠ entry ↔ other.id ≠ entry.id := by
    constructor
    · intro differs same
      exact differs (List.inj_on_of_nodup_map distinct member live same)
    · rintro differs rfl
      exact differs rfl
  rw [Bool.eq_iff_iff, bne_iff_ne, decide_eq_true_iff, told]

theorem lent (tallied : Tallied handed taken region) (address : UInt64) (block : Block) :
    Tallied (handed ++ [⟨region.nextId, ⟨address, block⟩⟩]) taken (region.lent address block) := by
  have fresh : region.nextId ∉ taken.map FreedBuffer.id := by
    intro present
    obtain ⟨buffer, member, same⟩ := List.mem_map.mp present
    exact Nat.lt_irrefl _ (same ▸ tallied.past buffer member)
  have owed : outstanding (handed ++ [⟨region.nextId, ⟨address, block⟩⟩]) taken =
      region.live ++ [⟨region.nextId, ⟨address, block⟩⟩] := by
    rw [tallied.live, outstanding, List.filter_append]
    simp only [outstanding, List.filter_cons, fresh, not_false_eq_true, decide_true, if_true, List.filter_nil]
  have balance := tallied.balance
  constructor
  case numbered =>
    rw [List.map_append, tallied.numbered, tallied.next, Nat.add_comm]
    exact List.range'_1_concat.symm
  case next => exact congrArg (· + 1) tallied.next
  case live => exact owed.symm
  case frees => exact tallied.frees
  case covered =>
    simp only [Region.lent]
    omega
  case count =>
    rw [owed, List.length_append, RegionStats.live]
    simp only [Region.lent, List.length_singleton]
    omega
  case past =>
    intro buffer member
    exact Nat.lt_succ_of_lt (tallied.past buffer member)

theorem reclaimed (tallied : Tallied handed taken region) {buffer : Buffer}
    (live : Region.entryOf buffer ∈ region.live) :
    Tallied handed (taken ++ [⟨buffer.id, buffer.bytes⟩]) (region.reclaimed buffer) := by
  have owed : outstanding handed (taken ++ [⟨buffer.id, buffer.bytes⟩]) =
      region.live.erase (Region.entryOf buffer) := by
    rw [tallied.erase_eq_filter live, tallied.live, outstanding, outstanding, List.filter_filter]
    apply List.filter_congr
    intro entry _
    simp only [List.map_append, List.map_cons, List.map_nil, List.mem_append, List.mem_singleton, not_or,
      Region.entryOf, ne_eq, Bool.decide_and]
    exact Bool.and_comm ..
  have balance := tallied.balance
  have some := List.length_pos_of_mem live
  have fewer := List.length_erase_of_mem live
  constructor
  case numbered => exact tallied.numbered
  case next => exact tallied.next
  case live => exact owed.symm
  case frees =>
    rw [List.length_append, ← tallied.frees]
    rfl
  case covered =>
    simp only [Region.reclaimed]
    omega
  case count =>
    rw [owed, RegionStats.live]
    simp only [Region.reclaimed]
    omega
  case past =>
    intro other member
    rcases List.mem_append.mp member with before | last
    · exact tallied.past other before
    · obtain rfl := List.mem_singleton.mp last
      exact tallied.id_lt live

end Tallied

/-! ### One deed more -/

section
variable {place : Nat} {log : List Deed} {deed : Deed} {region : Region} {buffer : Buffer}

theorem handedOut_concat :
    handedOut place (log ++ [deed]) = handedOut place log ++ (deed.lentBy? place).toList := by
  rw [handedOut, List.filterMap_append]
  cases kind : deed.lentBy? place <;> simp only [List.filterMap_cons, kind] <;> rfl

theorem takenBack_concat :
    takenBack place (log ++ [deed]) = takenBack place log ++ (deed.returnedTo? place).toList := by
  rw [takenBack, List.filterMap_append]
  cases kind : deed.returnedTo? place <;> simp only [List.filterMap_cons, kind] <;> rfl

theorem sinceCleared_concat (kept : deed ≠ .cleared place) :
    sinceCleared place (log ++ [deed]) = sinceCleared place log ++ [deed] := afterLast_concat kept log

theorem sinceCleared_cleared : sinceCleared place (log ++ [.cleared place]) = [] := afterLast_mark log

namespace Accounted

theorem empty (place : Nat) (name : String) (kernargs : Bool) : Accounted place [] { name, kernargs } where
  numbered := rfl
  next := rfl
  live := rfl
  frees := rfl
  covered := Nat.le_refl 0
  count := rfl
  past := nofun
  rejected := rfl
  freed := rfl

/-- An account goes on as its two lists and its count of rejections do. -/
theorem concat (accounted : Accounted place log region) (kept : deed ≠ .cleared place) {after : Region}
    (tallied : Tallied (handedOut place log ++ (deed.lentBy? place).toList)
      (takenBack place log ++ (deed.returnedTo? place).toList) after)
    (rejected : after.stats.rejectedFrees =
      region.stats.rejectedFrees + if deed.isRejectedBy place then 1 else 0)
    (freed : after.freed = region.freed ++ (deed.returnedTo? place).toList) :
    Accounted place (log ++ [deed]) after := by
  rw [← handedOut_concat, ← takenBack_concat] at tallied
  refine ⟨tallied, ?_, ?_⟩
  · rw [rejected, accounted.rejected, List.countP_append, List.countP_singleton]
  · rw [freed, accounted.freed, sinceCleared_concat kept, takenBack_concat]

theorem lent (accounted : Accounted place log region) (address : UInt64) (block : Block) :
    Accounted place (log ++ [.lent place (region.cleared address block)]) (region.lent address block) := by
  apply accounted.concat Deed.noConfusion
  · simp only [Deed.lentBy?, Deed.returnedTo?, if_true, Option.toList, List.append_nil]
    exact accounted.toTallied.lent address block
  · rfl
  · exact (List.append_nil _).symm

theorem returned (accounted : Accounted place log region) (live : Region.entryOf buffer ∈ region.live) :
    Accounted place (log ++ [.returned place buffer]) (region.reclaimed buffer) := by
  apply accounted.concat Deed.noConfusion
  · simp only [Deed.lentBy?, Deed.returnedTo?, if_true, Option.toList, List.append_nil]
    exact accounted.toTallied.reclaimed live
  · rfl
  · simp only [Deed.returnedTo?, if_true, Option.toList]
    rfl

theorem rejects (accounted : Accounted place log region) (buffer : Buffer) :
    Accounted place (log ++ [.rejected place buffer]) region.declined := by
  apply accounted.concat Deed.noConfusion
  · simp only [Deed.lentBy?, Deed.returnedTo?, Option.toList, List.append_nil]
    exact { accounted.toTallied with }
  · simp only [Deed.isRejectedBy, decide_true, if_true, Region.declined]
  · exact (List.append_nil _).symm

theorem cleared (accounted : Accounted place log region) :
    Accounted place (log ++ [.cleared place]) region.clearFreed := by
  have tallied : Tallied (handedOut place (log ++ [.cleared place]))
      (takenBack place (log ++ [.cleared place])) region.clearFreed := by
    simp only [handedOut_concat, takenBack_concat, Deed.lentBy?, Deed.returnedTo?, Option.toList,
      List.append_nil]
    exact { accounted.toTallied with }
  refine ⟨tallied, ?_, ?_⟩
  · rw [List.countP_append]
    exact accounted.rejected
  · rw [sinceCleared_cleared]
    rfl

/-- What happens in one region leaves the accounts of the others. -/
theorem elsewhere (accounted : Accounted place log region) (other : deed.place ≠ place) :
    Accounted place (log ++ [deed]) region := by
  obtain ⟨unlent, unreturned, unrejected⟩ := Deed.of_elsewhere other
  have kept : deed ≠ .cleared place := by
    rintro rfl
    exact other rfl
  apply accounted.concat kept
  · simp only [unlent, unreturned, Option.toList, List.append_nil]
    exact accounted.toTallied
  · rw [unrejected]
    rfl
  · rw [unreturned]
    exact (List.append_nil _).symm

end Accounted

namespace Books

variable {regions : List Region} {after : Region}

theorem set (books : Books log regions) (present : regions[place]? = some region) (here : deed.place = place)
    (accounted : Accounted place log region → Accounted place (log ++ [deed]) after) :
    Books (log ++ [deed]) (regions.set place after) := by
  intro other held found
  rw [List.getElem?_set] at found
  split at found
  · rename_i same
    subst same
    obtain ⟨inside, _⟩ := List.getElem?_eq_some_iff.mp present
    rw [if_pos inside] at found
    obtain rfl := Option.some.inj found
    exact accounted (books place region present)
  · rename_i differs
    exact (books other held found).elsewhere (here ▸ differs)

/-- A deed in a region that does not exist is in no account. -/
theorem missing (books : Books log regions) (absent : regions[place]? = none) (here : deed.place = place) :
    Books (log ++ [deed]) regions := by
  intro other held found
  apply (books other held found).elsewhere
  rintro rfl
  rw [here, absent] at found
  cases found

end Books
end

/-! ### Every answer of the device keeps the accounts -/

namespace Context

variable {context : Context} {place : Nat} {region : Region} {block : Block} {buffer : Buffer}

/-- An allocation is refused and changes nothing, or there is memory for it. -/
theorem allocate_cases (context : Context) (place : Nat) (block : Block) :
    (∃ cause, context.allocate place block = (.error cause, context)) ∨
      ∃ region address, context.Available place region block address := by
  cases present : context.regions[place]? with
  | none =>
    left
    simp only [allocate, present]
    exact ⟨_, rfl⟩
  | some region =>
    by_cases empty : block.size = 0
    · left
      simp only [allocate, present, Region.allocate, if_pos empty]
      exact ⟨_, rfl⟩
    · cases placed : context.heap.place context.placements block with
      | none => exact .inl ⟨_, allocate_unplaced present empty placed⟩
      | some address => exact .inr ⟨region, address, present, empty, placed⟩

theorem free_reclaimed (present : context.regions[place]? = some region)
    (live : Region.entryOf buffer ∈ region.live) :
    context.free place buffer = (.ok (), context.setRegion place (region.reclaimed buffer), []) := by
  simp only [free, present, Region.free, if_pos live]
  rfl

theorem free_declined (present : context.regions[place]? = some region)
    (foreign : Region.entryOf buffer ∉ region.live) :
    context.free place buffer = (.error (.unknownBuffer buffer.id),
      context.setRegion place region.declined, [.foreignFree region.name buffer.id]) := by
  simp only [free, present, Region.free, if_neg foreign]
  rfl

theorem free_missing (absent : context.regions[place]? = none) :
    context.free place buffer = (.error (.other "no such region"), context, []) := by
  simp only [free, absent]

theorem dispatch_regions (context : Context) (target : Option StreamId) (code : CodeDescriptor)
    (kernargs : Buffer) (workgroup : Option Dims) (grid : Dims) :
    (context.dispatch target code kernargs workgroup grid).2.regions = context.regions := by
  obtain ⟨defaultQueue, streams, after⟩ := context.dispatch_queues target code kernargs workgroup grid
  rw [after]

end Context

namespace Books

variable {log : List Deed}

theorem allocate {context : Context} (books : Books log context.regions) (place : Nat) (block : Block) :
    Books (log ++ Deed.ofExchange ⟨.allocate place block, (context.allocate place block).1⟩)
      (context.allocate place block).2.regions := by
  rcases context.allocate_cases place block with ⟨cause, refused⟩ | ⟨region, address, available⟩
  · simp only [refused, Deed.ofExchange, List.append_nil]
    exact books
  · rw [Context.allocate_available available]
    exact books.set available.present rfl fun accounted => accounted.lent address block

theorem free {context : Context} (books : Books log context.regions) (place : Nat) (buffer : Buffer) :
    Books (log ++ Deed.ofExchange ⟨.free place buffer, (context.free place buffer).1⟩)
      (context.free place buffer).2.1.regions := by
  cases present : context.regions[place]? with
  | none =>
    rw [Context.free_missing present]
    exact books.missing present rfl
  | some region =>
    by_cases live : Region.entryOf buffer ∈ region.live
    · rw [Context.free_reclaimed present live]
      exact books.set present rfl fun accounted => accounted.returned live
    · rw [Context.free_declined present live]
      exact books.set present rfl fun accounted => accounted.rejects buffer

theorem answer {host : HostSession} (books : Books log host.context.regions)
    (request : Request Module Program) :
    Books (log ++ Deed.ofExchange ⟨request, (HostSession.answer request host).1⟩)
      (HostSession.answer request host).2.context.regions := by
  cases request with
  | allocate place block => exact books.allocate place block
  | free place buffer => exact books.free place buffer
  | dispatch submission =>
    simp only [Deed.ofExchange, List.append_nil, HostSession.answer, Context.dispatch_regions]
    exact books
  | finalize program agent handle offset =>
    simp only [Deed.ofExchange, List.append_nil, HostSession.answer, Context.finalize]
    cases program.finalize host.context.finalizer agent handle offset <;> exact books
  | _ =>
    simp only [Deed.ofExchange, List.append_nil]
    exact books

/-- The accounts hold after a whole dialogue, with what was exchanged in it. -/
theorem run {α : Type} (dialogue : Dialogue Module Program α) (host : HostSession)
    (books : Books log host.context.regions) :
    Books (log ++ (dialogue.exchanges HostSession.answer host).flatMap Deed.ofExchange)
      (dialogue.run HostSession.answer host).2.context.regions := by
  apply Dialogue.exchanges_keep (motive := fun log (host : HostSession) => Books log host.context.regions) _ books
  intro log host books request
  exact books.answer request

end Books
end KernelLaunch
