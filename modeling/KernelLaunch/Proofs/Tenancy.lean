import KernelLaunch.Proofs.LaunchCourse
import KernelLaunch.Proofs.RegionAccount

/-! What clients do with the buffers of a device: they take buffers from any region, write them, give
them back to any region, and launch kernels in between. A client no longer has a buffer that it has
handed in, whatever the region said. However it goes about this, the regions keep their accounts and
take back just what they handed out. -/

namespace KernelLaunch

/-- A buffer that a client has, and the place of the region that handed it out. -/
structure Loan where
  owner : Nat
  buffer : Buffer

structure Tenancy where
  context : Context
  loans : List Loan := []
  /-- What has happened to the buffers of the device, those of launches included. -/
  log : List Deed := []

namespace Tenancy

inductive Move where
  | allocate (place : Nat) (block : Block)
  | write (loan offset : Nat) (bytes : Bytes)
  | free (place loan : Nat)
  | clearFreed (place : Nat)
  | launch (order : LaunchOrder)
  /-- All of the device but its regions becomes what it is in another: queues, programs, failures. -/
  | rearrange (other : Context)

def step (tenancy : Tenancy) : Move → Tenancy
  | .allocate place block =>
    let (answer, context) := tenancy.context.allocate place block
    { context
      loans := tenancy.loans ++
        match answer with
        | .ok buffer => [⟨place, buffer⟩]
        | .error _ => []
      log := tenancy.log ++ Deed.ofExchange ⟨.allocate place block, answer⟩ }
  | .write loan offset bytes =>
    match tenancy.loans[loan]? with
    | none => tenancy
    | some held =>
      { tenancy with
        loans := tenancy.loans.set loan { held with buffer := held.buffer.write offset bytes } }
  | .free place loan =>
    match tenancy.loans[loan]? with
    | none => tenancy
    | some held =>
      let (answer, context, _) := tenancy.context.free place held.buffer
      { context
        loans := tenancy.loans.eraseIdx loan
        log := tenancy.log ++ Deed.ofExchange ⟨.free place held.buffer, answer⟩ }
  | .clearFreed place =>
    match tenancy.context.regions[place]? with
    | none => tenancy
    | some region =>
      { tenancy with
        context := tenancy.context.setRegion place region.clearFreed
        log := tenancy.log ++ [.cleared place] }
  | .launch order =>
    { tenancy with
      context := (tenancy.context.launch order).2.1
      log := tenancy.log ++
        ((KernelLaunch.launch order).exchanges HostSession.answer { context := tenancy.context }).flatMap
          Deed.ofExchange }
  | .rearrange other => { tenancy with context := { other with regions := tenancy.context.regions } }

def after (tenancy : Tenancy) (moves : List Move) : Tenancy := moves.foldl step tenancy

/-- A device with new regions. -/
def opened (context : Context) (regions : List RegionInfo) : Tenancy where
  context :=
    { context with regions := regions.map fun info => { name := info.name, kernargs := info.kernargs } }

end Tenancy

/-! ### Buffers that are in use -/

namespace Context

def liveAt (context : Context) (place : Nat) : List LiveBuffer :=
  (context.regions[place]?.map Region.live).getD []

variable {context : Context} {place other : Nat} {region : Region} {entry : LiveBuffer} {buffer : Buffer}
  {block : Block} {address : UInt64}

theorem liveAt_eq (present : context.regions[place]? = some region) : context.liveAt place = region.live := by
  rw [liveAt, present]
  rfl

theorem mem_liveAt :
    entry ∈ context.liveAt place ↔ ∃ region, context.regions[place]? = some region ∧ entry ∈ region.live := by
  cases present : context.regions[place]? with
  | none =>
    rw [liveAt, present]
    exact ⟨nofun, nofun⟩
  | some region =>
    rw [liveAt_eq present]
    exact ⟨fun live => ⟨region, rfl, live⟩, fun ⟨_, same, live⟩ => Option.some.inj same ▸ live⟩

theorem liveAt_setRegion (present : context.regions[place]? = some region) (after : Region) (other : Nat) :
    (context.setRegion place after).liveAt other =
      if place = other then after.live else context.liveAt other := by
  obtain ⟨inside, _⟩ := List.getElem?_eq_some_iff.mp present
  simp only [liveAt, setRegion, List.getElem?_set, inside, if_true]
  split <;> rfl

theorem liveAt_setRegion_of_live (present : context.regions[place]? = some region) (after : Region)
    (same : after.live = region.live) (other : Nat) :
    (context.setRegion place after).liveAt other = context.liveAt other := by
  rw [liveAt_setRegion present]
  split
  · rename_i here
    rw [← here, liveAt_eq present, same]
  · rfl

theorem liveAt_served (context : Context) (present : context.regions[place]? = some region)
    (bytes : Bytes) (other : Nat) :
    (context.setRegion place (region.served bytes)).liveAt other = context.liveAt other :=
  liveAt_setRegion_of_live present (region.served bytes) rfl other

theorem liveAt_recorded (context : Context) (target : Option StreamId) (record : DispatchRecord)
    (place : Nat) : (context.recorded target record).liveAt place = context.liveAt place := by
  rw [liveAt, recorded, (context.updateQueue_frame ..).1, liveAt]

theorem mem_liveAt_lent (present : context.regions[place]? = some region) :
    entry ∈ (context.setRegion place (region.lent address block)).liveAt other ↔
      entry ∈ context.liveAt other ∨ place = other ∧ entry = ⟨region.nextId, ⟨address, block⟩⟩ := by
  rw [liveAt_setRegion present]
  split
  · rename_i here
    rw [← here, liveAt_eq present, Region.lent, List.mem_append, List.mem_singleton]
    simp only [true_and]
  · rename_i elsewhere
    simp only [elsewhere, false_and, or_false]

theorem mem_of_mem_reclaimed (present : context.regions[place]? = some region)
    (live : entry ∈ (context.setRegion place (region.reclaimed buffer)).liveAt other) :
    entry ∈ context.liveAt other := by
  rw [liveAt_setRegion present] at live
  split at live
  · rename_i here
    rw [← here, liveAt_eq present]
    exact List.mem_of_mem_erase live
  · exact live

theorem mem_reclaimed_of_ne (present : context.regions[place]? = some region)
    (live : entry ∈ context.liveAt other) (differs : entry ≠ Region.entryOf buffer) :
    entry ∈ (context.setRegion place (region.reclaimed buffer)).liveAt other := by
  rw [liveAt_setRegion present]
  split
  · rename_i here
    rw [← here, liveAt_eq present] at live
    exact (List.mem_erase_of_ne differs).mpr live
  · exact live

/-- A region takes back just what is live in it. -/
theorem free_accepted_iff :
    (context.free place buffer).1 = .ok () ↔ Region.entryOf buffer ∈ context.liveAt place := by
  cases present : context.regions[place]? with
  | none =>
    rw [free_missing present, liveAt, present]
    exact ⟨nofun, nofun⟩
  | some region =>
    rw [liveAt_eq present]
    by_cases live : Region.entryOf buffer ∈ region.live
    · rw [free_reclaimed present live]
      exact ⟨fun _ => live, fun _ => rfl⟩
    · rw [free_declined present live]
      exact ⟨nofun, fun claimed => absurd claimed live⟩

/-- A launch gives back what it took, so it leaves live what was live before. -/
theorem liveAt_launch (context : Context) (order : LaunchOrder) (place : Nat) :
    (context.launch order).2.1.liveAt place = context.liveAt place := by
  have course := Launch.launch_course context order
  generalize (context.launch order).1 = outcome, (context.launch order).2.1 = after at course ⊢
  cases course with
  | arity | stream | image | symbol | finalization | overflow | region | layout | allocation => rfl
  | argument placed => exact context.finalized.liveAt_served placed.available.present _ place
  | dispatch filled => exact context.finalized.liveAt_served filled.available.present _ place
  | ok filled =>
    have available : context.finalized.Available _ _ _ _ :=
      ⟨filled.available.present, filled.available.positive, filled.available.placed⟩
    exact ((context.finalized.recorded _ _).liveAt_served (available.recorded _ _).present _ place).trans
      (context.finalized.liveAt_recorded _ _ place)

end Context

/-! ### What clients have is live where it came from -/

/-- No two live buffers of a device have one address, and every buffer that a client has is live in the
region that handed it out. -/
structure Custody (context : Context) (loans : List Loan) : Prop where
  apart : ∀ {first second entry other}, entry ∈ context.liveAt first → other ∈ context.liveAt second →
    entry.placement.address = other.placement.address → first = second ∧ entry = other
  held : ∀ loan ∈ loans, Region.entryOf loan.buffer ∈ context.liveAt loan.owner
  distinct : (loans.map fun loan => loan.buffer.address).Nodup

namespace Custody

variable {context after : Context} {loans : List Loan} {place index : Nat} {loan : Loan} {region : Region}
  {block : Block} {address : UInt64}

theorem opened (context : Context) (regions : List RegionInfo) :
    Custody (Tenancy.opened context regions).context [] where
  apart := by
    intro first second entry other live
    obtain ⟨region, present, live⟩ := Context.mem_liveAt.mp live
    obtain ⟨info, _, rfl⟩ := List.mem_map.mp (List.mem_of_getElem? present)
    cases live
  held := nofun
  distinct := List.nodup_nil

theorem congr (custody : Custody context loans) (same : ∀ place, after.liveAt place = context.liveAt place) :
    Custody after loans where
  apart := by
    intro first second entry other
    rw [same, same]
    exact custody.apart
  held := by
    intro loan member
    rw [same]
    exact custody.held loan member
  distinct := custody.distinct

theorem fewer (custody : Custody context loans) {kept : List Loan} (sublist : kept.Sublist loans) :
    Custody context kept where
  apart := custody.apart
  held := fun loan member => custody.held loan (sublist.subset member)
  distinct := custody.distinct.sublist (sublist.map _)

/-- Only the region that handed a buffer out has it among its live ones. -/
theorem live_iff (custody : Custody context loans) (member : loan ∈ loans) :
    Region.entryOf loan.buffer ∈ context.liveAt place ↔ place = loan.owner := by
  constructor
  · intro live
    exact (custody.apart live (custody.held loan member) rfl).1
  · rintro rfl
    exact custody.held loan member

theorem lent (custody : Custody context loans) (available : context.Available place region block address) :
    Custody (context.setRegion place (region.lent address block))
      (loans ++ [⟨place, region.cleared address block⟩]) := by
  have fresh : ∀ {other entry}, entry ∈ context.liveAt other → entry.placement.address ≠ address := by
    intro other entry live
    obtain ⟨region, present, live⟩ := Context.mem_liveAt.mp live
    exact context.heap.fresh _ _ _ available.placed _ (Context.mem_placements present live)
  constructor
  case apart =>
    intro first second entry other one two same
    rcases (Context.mem_liveAt_lent available.present).mp one with one | ⟨rfl, rfl⟩ <;>
      rcases (Context.mem_liveAt_lent available.present).mp two with two | ⟨rfl, rfl⟩
    · exact custody.apart one two same
    · exact absurd same (fresh one)
    · exact absurd same.symm (fresh two)
    · exact ⟨rfl, rfl⟩
  case held =>
    intro loan member
    rw [Context.mem_liveAt_lent available.present]
    rcases List.mem_append.mp member with before | last
    · exact .inl (custody.held loan before)
    · obtain rfl := List.mem_singleton.mp last
      exact .inr ⟨rfl, rfl⟩
  case distinct =>
    rw [List.map_append, List.nodup_append]
    refine ⟨custody.distinct, List.nodup_singleton _, ?_⟩
    intro taken present other single
    obtain ⟨loan, member, rfl⟩ := List.mem_map.mp present
    rw [List.map_singleton, List.mem_singleton] at single
    rw [single]
    exact fresh (custody.held loan member)

theorem written (custody : Custody context loans) (present : loans[index]? = some loan) (offset : Nat)
    (bytes : Bytes) :
    Custody context (loans.set index { loan with buffer := loan.buffer.write offset bytes }) where
  apart := custody.apart
  held := by
    intro other member
    rcases List.mem_or_eq_of_mem_set member with before | rfl
    · exact custody.held other before
    · exact custody.held loan (List.mem_of_getElem? present)
  distinct := by
    obtain ⟨inside, rfl⟩ := List.getElem?_eq_some_iff.mp present
    have within : index < (loans.map fun loan => loan.buffer.address).length := by
      rw [List.length_map]
      exact inside
    have unchanged := List.set_getElem_self within
    rw [List.getElem_map] at unchanged
    rw [List.map_set]
    exact unchanged.symm ▸ custody.distinct

theorem returned (custody : Custody context loans) (present : loans[index]? = some loan)
    (owner : context.regions[loan.owner]? = some region) :
    Custody (context.setRegion loan.owner (region.reclaimed loan.buffer)) (loans.eraseIdx index) where
  apart := by
    intro first second entry other one two
    exact custody.apart (Context.mem_of_mem_reclaimed owner one) (Context.mem_of_mem_reclaimed owner two)
  held := by
    intro other member
    apply Context.mem_reclaimed_of_ne owner (custody.held other (List.mem_of_mem_eraseIdx member))
    intro same
    obtain ⟨place, differs, found⟩ := List.mem_eraseIdx_iff_getElem?.mp member
    obtain ⟨inside, _⟩ := List.getElem?_eq_some_iff.mp found
    have address : other.buffer.address = loan.buffer.address :=
      congrArg (fun entry => entry.placement.address) same
    apply differs
    rw [← List.getElem?_inj (by rw [List.length_map]; exact inside) custody.distinct, List.getElem?_map,
      List.getElem?_map, found, present, Option.map_some, Option.map_some, address]
  distinct := (custody.fewer (List.eraseIdx_sublist ..)).distinct

end Custody

namespace Tenancy

structure Kept (tenancy : Tenancy) : Prop where
  books : Books tenancy.log tenancy.context.regions
  custody : Custody tenancy.context tenancy.loans

theorem kept_opened (context : Context) (regions : List RegionInfo) : (opened context regions).Kept where
  books := by
    intro place region present
    obtain ⟨info, _, rfl⟩ := List.mem_map.mp (List.mem_of_getElem? present)
    exact .empty place info.name info.kernargs
  custody := .opened context regions

variable {tenancy : Tenancy}

namespace Kept

theorem allocate (kept : tenancy.Kept) (place : Nat) (block : Block) :
    (tenancy.step (.allocate place block)).Kept := by
  have books := kept.books.allocate place block
  rcases tenancy.context.allocate_cases place block with ⟨cause, refused⟩ | ⟨region, address, available⟩
  · rw [refused] at books
    simp only [step, refused, List.append_nil]
    exact ⟨books, kept.custody⟩
  · rw [Context.allocate_available available] at books
    simp only [step, Context.allocate_available available]
    exact ⟨books, kept.custody.lent available⟩

theorem write (kept : tenancy.Kept) (loan offset : Nat) (bytes : Bytes) :
    (tenancy.step (.write loan offset bytes)).Kept := by
  cases present : tenancy.loans[loan]? with
  | none =>
    simp only [step, present]
    exact kept
  | some held =>
    simp only [step, present]
    exact ⟨kept.books, kept.custody.written present offset bytes⟩

theorem free (kept : tenancy.Kept) (place loan : Nat) : (tenancy.step (.free place loan)).Kept := by
  cases present : tenancy.loans[loan]? with
  | none =>
    simp only [step, present]
    exact kept
  | some held =>
    have books := kept.books.free place held.buffer
    have fewer := kept.custody.fewer (tenancy.loans.eraseIdx_sublist loan)
    simp only [step, present]
    refine ⟨books, ?_⟩
    cases found : tenancy.context.regions[place]? with
    | none =>
      rw [Context.free_missing found]
      exact fewer
    | some region =>
      by_cases live : Region.entryOf held.buffer ∈ region.live
      · have owner : place = held.owner := by
          rw [← kept.custody.live_iff (List.mem_of_getElem? present), Context.liveAt_eq found]
          exact live
        subst owner
        rw [Context.free_reclaimed found live]
        exact kept.custody.returned present found
      · rw [Context.free_declined found live]
        exact fewer.congr fun other => Context.liveAt_setRegion_of_live found region.declined rfl other

theorem clearFreed (kept : tenancy.Kept) (place : Nat) : (tenancy.step (.clearFreed place)).Kept := by
  cases present : tenancy.context.regions[place]? with
  | none =>
    simp only [step, present]
    exact kept
  | some region =>
    simp only [step, present]
    exact ⟨kept.books.set present rfl Accounted.cleared,
      kept.custody.congr fun other => Context.liveAt_setRegion_of_live present region.clearFreed rfl other⟩

theorem launch (kept : tenancy.Kept) (order : LaunchOrder) : (tenancy.step (.launch order)).Kept := by
  have books := Books.run (KernelLaunch.launch order) { context := tenancy.context } kept.books
  exact ⟨books, kept.custody.congr (tenancy.context.liveAt_launch order)⟩

theorem step (kept : tenancy.Kept) (move : Move) : (tenancy.step move).Kept := by
  cases move with
  | allocate place block => exact kept.allocate place block
  | write loan offset bytes => exact kept.write loan offset bytes
  | free place loan => exact kept.free place loan
  | clearFreed place => exact kept.clearFreed place
  | launch order => exact kept.launch order
  | rearrange other => exact ⟨kept.books, kept.custody.congr fun _ => rfl⟩

theorem after (kept : tenancy.Kept) (moves : List Move) : (tenancy.after moves).Kept := by
  induction moves generalizing tenancy with
  | nil => exact kept
  | cons move moves ih => exact ih (kept.step move)

end Kept

/-- The regions keep their accounts, and what each of them does next is settled by who handed a
buffer out. -/
structure Orderly (tenancy : Tenancy) : Prop where
  accounts : Books tenancy.log tenancy.context.regions
  lends : ∀ place block buffer, (tenancy.context.allocate place block).1 = .ok buffer →
    ∃ region, tenancy.context.regions[place]? = some region ∧ buffer.id = region.stats.allocations + 1 ∧
      (tenancy.context.allocate place block).2 =
        tenancy.context.setRegion place (region.lent buffer.address block)
  refuses : ∀ place block cause, (tenancy.context.allocate place block).1 = .error cause →
    (tenancy.context.allocate place block).2 = tenancy.context
  accepted : ∀ loan ∈ tenancy.loans, ∀ place,
    (tenancy.context.free place loan.buffer).1 = .ok () ↔ place = loan.owner
  accepts : ∀ loan ∈ tenancy.loans, ∃ region, tenancy.context.regions[loan.owner]? = some region ∧
    tenancy.context.free loan.owner loan.buffer =
      (.ok (), tenancy.context.setRegion loan.owner (region.reclaimed loan.buffer), []) ∧
    ∀ entry, entry ∈ (region.reclaimed loan.buffer).live ↔
      entry ∈ region.live ∧ entry ≠ Region.entryOf loan.buffer
  rejects : ∀ loan ∈ tenancy.loans, ∀ place region, place ≠ loan.owner →
    tenancy.context.regions[place]? = some region →
    tenancy.context.free place loan.buffer = (.error (.unknownBuffer loan.buffer.id),
      tenancy.context.setRegion place region.declined, [.foreignFree region.name loan.buffer.id]) ∧
    Region.entryOf loan.buffer ∈ (tenancy.context.setRegion place region.declined).liveAt loan.owner

theorem Kept.orderly (kept : tenancy.Kept) : tenancy.Orderly where
  accounts := kept.books
  lends := by
    intro place block buffer given
    rcases tenancy.context.allocate_cases place block with ⟨cause, refused⟩ | ⟨region, address, available⟩
    · rw [refused] at given
      cases given
    · rw [Context.allocate_available available] at given ⊢
      cases given
      exact ⟨region, available.present, (kept.books place region available.present).next, rfl⟩
  refuses := by
    intro place block cause refused
    rcases tenancy.context.allocate_cases place block with ⟨_, unchanged⟩ | ⟨region, address, available⟩
    · rw [unchanged]
    · rw [Context.allocate_available available] at refused
      cases refused
  accepted := by
    intro loan member place
    rw [Context.free_accepted_iff, kept.custody.live_iff member]
  accepts := by
    intro loan member
    obtain ⟨region, present, live⟩ := Context.mem_liveAt.mp (kept.custody.held loan member)
    refine ⟨region, present, Context.free_reclaimed present live, ?_⟩
    intro entry
    have distinct := List.Nodup.of_map _ (kept.books loan.owner region present).nodup_ids
    rw [Region.reclaimed, distinct.mem_erase_iff, and_comm]
  rejects := by
    intro loan member place region elsewhere present
    have foreign : Region.entryOf loan.buffer ∉ region.live := by
      rw [← Context.liveAt_eq present, kept.custody.live_iff member]
      exact elsewhere
    refine ⟨Context.free_declined present foreign, ?_⟩
    rw [Context.liveAt_setRegion_of_live present region.declined rfl]
    exact kept.custody.held loan member

/-- Whatever clients do with a device, its regions stay orderly. -/
theorem regions_orderly (context : Context) (regions : List RegionInfo) (moves : List Move) :
    ((opened context regions).after moves).Orderly :=
  ((kept_opened context regions).after moves).orderly

/-- Both regions number their first buffer one, and still the second does not take the buffer of the
first. -/
example :
    ((opened .standard [⟨"first", true⟩, ⟨"second", true⟩]).after
        [.allocate 0 ⟨16, 16⟩, .allocate 1 ⟨16, 16⟩, .free 1 0]).context.regions.map
      (fun region => (region.stats, region.live.map LiveBuffer.id)) =
      [(⟨1, 0, 0⟩, [1]), (⟨1, 0, 1⟩, [1])] := by decide

end Tenancy
end KernelLaunch
