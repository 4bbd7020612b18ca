import KernelLaunch.Launch.Rehearsal
import KernelLaunch.Proofs.BufferLifecycle
import KernelLaunch.Proofs.FilledBuffer
import KernelLaunch.Proofs.NativeEncoding

/-! The rules that the calls of a launch about argument memory obey on every driver. What is told of a
launch has one of six shapes; each rule is read off these, and then holds of all its calls. -/

namespace KernelLaunch
namespace Launch

open Dialogue Exchange

variable {M P : Type} {order : LaunchOrder} {told log : List (Exchange M P)} {outcome : Outcome}

theorem Unlent.mem (unlent : Unlent told) {exchange : Exchange M P} (member : exchange ∈ told) :
    exchange.isDispatch = false ∧ exchange.isFree = false ∧
      ∀ region block buffer, exchange ≠ ⟨.allocate region block, .ok buffer⟩ := by
  have opened {opening : Exchange M P} (finalized : opening.Finalized) :
      opening.isDispatch = false ∧ opening.isFree = false ∧
        ∀ region block buffer, opening ≠ ⟨.allocate region block, .ok buffer⟩ := by
    obtain ⟨_, _, _, _, _, rfl⟩ := finalized
    exact ⟨rfl, rfl, fun _ _ _ impossible => by cases impossible⟩
  cases unlent with
  | nothing => cases member
  | finalizationFailed =>
    obtain rfl := List.mem_singleton.mp member
    exact ⟨rfl, rfl, fun _ _ _ impossible => by cases impossible⟩
  | finalized finalized =>
    obtain rfl := List.mem_singleton.mp member
    exact opened finalized
  | allocationFailed finalized =>
    simp only [List.mem_cons, List.not_mem_nil, or_false] at member
    rcases member with rfl | rfl
    · exact opened finalized
    · exact ⟨rfl, rfl, fun _ _ _ impossible => by cases impossible⟩

theorem Lifecycle.of_allocation (life : Lifecycle order told outcome) {region : Nat} {block : Block}
    {buffer : Buffer} (lent : ⟨.allocate region block, .ok buffer⟩ ∈ told) :
    ∃ opening layout, opening.Finalized ∧
      Layout.ofSignature order.options.abi order.handle.types = .ok layout ∧
      ((∃ bytes cause reply, prepare order layout buffer.bytes = (bytes, .error cause) ∧
          outcome = refuse cause ∧
          told = [opening, ⟨.allocate region block, .ok buffer⟩,
            ⟨.free region { buffer with bytes }, reply⟩]) ∨
        ∃ bytes slots submission submitted released,
          prepare order layout buffer.bytes = (bytes, .ok slots) ∧
          submission.kernargs = { buffer with bytes } ∧ outcome = verdict order submitted released ∧
          told = [opening, ⟨.allocate region block, .ok buffer⟩, ⟨.dispatch submission, submitted⟩,
            ⟨.free region submission.kernargs, released⟩]) := by
  cases life with
  | unlent unlent early => exact absurd rfl ((unlent.mem lent).2.2 region block buffer)
  | abandoned finalized laid unprepared =>
    simp only [List.mem_cons, List.not_mem_nil, or_false] at lent
    rcases lent with rfl | same | same
    · cases finalized.kind.2.1
    · cases same
      exact ⟨_, _, finalized, laid, .inl ⟨_, _, _, unprepared, rfl, rfl⟩⟩
    · cases same
  | submitted finalized arity laid prepared handed =>
    simp only [List.mem_cons, List.not_mem_nil, or_false] at lent
    rcases lent with rfl | same | same | same
    · cases finalized.kind.2.1
    · cases same
      exact ⟨_, _, finalized, laid, .inr ⟨_, _, _, _, _, prepared, handed, rfl, rfl⟩⟩
    · cases same
    · cases same

theorem Lifecycle.of_dispatch (life : Lifecycle order told outcome) {submission : Submission}
    {submitted : Except DriverError Unit} (member : ⟨.dispatch submission, submitted⟩ ∈ told) :
    ∃ opening region block buffer layout bytes slots released, opening.Finalized ∧
      order.arguments.length = order.handle.types.length ∧
      Layout.ofSignature order.options.abi order.handle.types = .ok layout ∧
      prepare order layout buffer.bytes = (bytes, .ok slots) ∧
      submission.kernargs = { buffer with bytes } ∧ outcome = verdict order submitted released ∧
      told = [opening, ⟨.allocate region block, .ok buffer⟩, ⟨.dispatch submission, submitted⟩,
        ⟨.free region submission.kernargs, released⟩] := by
  cases life with
  | unlent unlent early => cases (unlent.mem member).1
  | abandoned finalized laid unprepared =>
    simp only [List.mem_cons, List.not_mem_nil, or_false] at member
    rcases member with rfl | same | same
    · cases finalized.kind.2.2.1
    · cases same
    · cases same
  | submitted finalized arity laid prepared handed =>
    simp only [List.mem_cons, List.not_mem_nil, or_false] at member
    rcases member with rfl | same | same | same
    · cases finalized.kind.2.2.1
    · cases same
    · cases same
      exact ⟨_, _, _, _, _, _, _, _, finalized, arity, laid, prepared, handed, rfl, rfl⟩
    · cases same

theorem countP_essential {kind : Exchange M P → Bool}
    (told : ∀ exchange, kind exchange = true → essential exchange = true) :
    (log.filter essential).countP kind = log.countP kind := by
  rw [List.countP_filter]
  congr 1
  funext exchange
  cases same : kind exchange with
  | false => rfl
  | true => rw [told exchange same, Bool.and_true]

theorem Lifecycle.of_allocate (life : Lifecycle order told outcome) {region : Nat} {block : Block}
    {reply : Except DriverError Buffer} (asked : ⟨.allocate region block, reply⟩ ∈ told) :
    ∃ opening rest, opening.Finalized ∧ told = [opening, ⟨.allocate region block, reply⟩] ++ rest := by
  cases life with
  | unlent unlent early =>
    cases unlent with
    | nothing => cases asked
    | finalizationFailed => cases List.mem_singleton.mp asked
    | finalized finalized =>
      cases List.mem_singleton.mp asked
      cases finalized.kind.2.1
    | allocationFailed finalized =>
      simp only [List.mem_cons, List.not_mem_nil, or_false] at asked
      rcases asked with rfl | same
      · cases finalized.kind.2.1
      · cases same
        exact ⟨_, [], finalized, rfl⟩
  | abandoned finalized laid unprepared =>
    simp only [List.mem_cons, List.not_mem_nil, or_false] at asked
    rcases asked with rfl | same | same
    · cases finalized.kind.2.1
    · cases same
      exact ⟨_, _, finalized, rfl⟩
    · cases same
  | submitted finalized arity laid prepared handed =>
    simp only [List.mem_cons, List.not_mem_nil, or_false] at asked
    rcases asked with rfl | same | same | same
    · cases finalized.kind.2.1
    · cases same
      exact ⟨_, _, finalized, rfl⟩
    · cases same
    · cases same

theorem Lifecycle.allocates_once (life : Lifecycle order told outcome) :
    told.countP isAllocation ≤ 1 := by
  cases life with
  | unlent unlent early =>
    cases unlent with
    | nothing | finalizationFailed => exact Nat.zero_le 1
    | finalized finalized =>
      obtain ⟨_, _, _, _, _, rfl⟩ := finalized
      exact Nat.zero_le 1
    | allocationFailed finalized =>
      obtain ⟨_, _, _, _, _, rfl⟩ := finalized
      exact Nat.le_refl 1
  | abandoned finalized laid unprepared =>
    obtain ⟨_, _, _, _, _, rfl⟩ := finalized
    exact Nat.le_refl 1
  | submitted finalized arity laid prepared handed =>
    obtain ⟨_, _, _, _, _, rfl⟩ := finalized
    exact Nat.le_refl 1

theorem Lifecycle.dispatches_once (life : Lifecycle order told outcome) :
    told.countP isDispatch ≤ 1 := by
  cases life with
  | unlent unlent early =>
    rw [List.countP_eq_zero.mpr fun exchange member => by simp [(unlent.mem member).1]]
    exact Nat.zero_le 1
  | abandoned finalized laid unprepared =>
    obtain ⟨_, _, _, _, _, rfl⟩ := finalized
    exact Nat.zero_le 1
  | submitted finalized arity laid prepared handed =>
    obtain ⟨_, _, _, _, _, rfl⟩ := finalized
    exact Nat.le_refl 1

theorem Lifecycle.of_free {first rest : List (Exchange M P)} {region : Nat} {given : Buffer}
    {reply : Except DriverError Unit}
    (life : Lifecycle order (first ++ ⟨.free region given, reply⟩ :: rest) outcome)
    (unsubmitted : first.countP isDispatch = 0) :
    ∃ opening block buffer layout bytes cause,
      first = [opening, ⟨.allocate region block, .ok buffer⟩] ∧
      Layout.ofSignature order.options.abi order.handle.types = .ok layout ∧
      prepare order layout buffer.bytes = (bytes, .error cause) ∧ outcome = refuse cause := by
  generalize shape : first ++ ⟨.free region given, reply⟩ :: rest = told at life
  cases life with
  | unlent unlent early =>
    have member : ⟨.free region given, reply⟩ ∈ told := by
      rw [← shape]
      exact List.mem_append_right first (List.mem_cons_self ..)
    cases (unlent.mem member).2.1
  | abandoned finalized laid unprepared =>
    -- a free can only stand in the third place of this shape
    rcases first with _ | ⟨one, _ | ⟨two, _ | ⟨three, more⟩⟩⟩
    · cases shape
      cases finalized.kind.2.2.2
    · cases shape
    · cases shape
      exact ⟨_, _, _, _, _, _, rfl, laid, unprepared, rfl⟩
    · simp at shape
  | submitted finalized arity laid prepared handed =>
    rcases first with _ | ⟨one, _ | ⟨two, _ | ⟨three, _ | ⟨four, more⟩⟩⟩⟩
    · cases shape
      cases finalized.kind.2.2.2
    · cases shape
    · cases shape
    · cases shape
      obtain ⟨_, _, _, _, _, rfl⟩ := finalized
      cases unsubmitted
    · simp at shape

theorem verdict_eq_dispatch {submitted released : Except DriverError Unit} {cause : DriverError} :
    verdict order submitted released = refuse (.dispatch (symbol order) cause) ↔
      submitted = .error cause := by
  cases submitted with
  | error refused => simp [verdict, refuse]
  | ok _ => cases released <;> simp [verdict, refuse]

theorem verdict_eq_release {submitted released : Except DriverError Unit} {cause : DriverError} :
    verdict order submitted released = refuse (.release cause) ↔
      submitted = .ok () ∧ released = .error cause := by
  cases submitted with
  | error refused => simp [verdict, refuse]
  | ok _ => cases released <;> simp [verdict, refuse]

theorem Lifecycle.dispatch_error (life : Lifecycle order told outcome) (cause : DriverError) :
    outcome = refuse (.dispatch (symbol order) cause) ↔
      ∃ submission, ⟨.dispatch submission, .error cause⟩ ∈ told := by
  constructor
  · intro reported
    cases life with
    | unlent unlent early =>
      rw [reported] at early
      exact early.elim
    | abandoned finalized laid unprepared =>
      cases reported
      exact (prepare_beforeDispatch unprepared).elim
    | submitted finalized arity laid prepared handed =>
      obtain rfl := verdict_eq_dispatch.mp reported
      exact ⟨_, .tail _ (.tail _ (.head _))⟩
  · rintro ⟨submission, member⟩
    obtain ⟨_, _, _, _, _, _, _, _, _, _, _, _, _, rfl, _⟩ := life.of_dispatch member
    rfl

theorem Lifecycle.release_error (life : Lifecycle order told outcome) (cause : DriverError) :
    outcome = refuse (.release cause) ↔
      (∃ submission, ⟨.dispatch submission, .ok ()⟩ ∈ told) ∧
        ∃ region buffer, ⟨.free region buffer, .error cause⟩ ∈ told := by
  constructor
  · intro reported
    cases life with
    | unlent unlent early =>
      rw [reported] at early
      exact early.elim
    | abandoned finalized laid unprepared =>
      cases reported
      exact (prepare_beforeDispatch unprepared).elim
    | submitted finalized arity laid prepared handed =>
      obtain ⟨rfl, rfl⟩ := verdict_eq_release.mp reported
      exact ⟨⟨_, .tail _ (.tail _ (.head _))⟩, _, _, .tail _ (.tail _ (.tail _ (.head _)))⟩
  · rintro ⟨⟨submission, submitted⟩, region, buffer, freed⟩
    obtain ⟨_, _, _, _, _, _, _, _, finalized, _, _, _, _, rfl, rfl⟩ := life.of_dispatch submitted
    simp only [List.mem_cons, List.not_mem_nil, or_false] at freed
    rcases freed with rfl | same | same | same
    · cases finalized.kind.2.2.2
    · cases same
    · cases same
    · cases same
      rfl

theorem Lifecycle.of_unprepared (life : Lifecycle order told outcome) {region : Nat} {block : Block}
    {buffer : Buffer} (lent : ⟨.allocate region block, .ok buffer⟩ ∈ told) {layout : Layout}
    (laid : Layout.ofSignature order.options.abi order.handle.types = .ok layout) {bytes : Bytes}
    {cause : LaunchError} (failed : prepare order layout buffer.bytes = (bytes, .error cause)) :
    outcome = refuse cause ∧ told.countP isDispatch = 0 := by
  obtain ⟨opening, other, finalized, same, shape⟩ := life.of_allocation lent
  rw [laid] at same
  obtain rfl := Except.ok.inj same
  obtain ⟨_, _, reply, unprepared, rfl, rfl⟩ | ⟨_, _, _, _, _, prepared, _⟩ := shape
  · rw [failed] at unprepared
    cases unprepared
    obtain ⟨_, _, _, _, _, rfl⟩ := finalized
    exact ⟨rfl, rfl⟩
  · rw [failed] at prepared
    cases prepared

theorem Lifecycle.frees_once (life : Lifecycle order told outcome) {region : Nat} {block : Block}
    {buffer : Buffer} (lent : ⟨.allocate region block, .ok buffer⟩ ∈ told) :
    told.countP isFree = 1 ∧ ∃ given reply, given.SameMemory buffer ∧
      [⟨.allocate region block, .ok buffer⟩, ⟨.free region given, reply⟩].Sublist told := by
  obtain ⟨opening, layout, ⟨_, _, _, _, _, rfl⟩, laid, shape⟩ := life.of_allocation lent
  obtain ⟨bytes, cause, reply, failed, rfl, rfl⟩ |
    ⟨bytes, slots, submission, submitted, released, prepared, handed, rfl, rfl⟩ := shape
  · exact ⟨rfl, _, reply, ⟨rfl, rfl, rfl⟩, .cons _ (.refl _)⟩
  · refine ⟨rfl, submission.kernargs, released, ?_, .cons _ (.cons_cons _ (.cons _ (.refl _)))⟩
    rw [handed]
    exact ⟨rfl, rfl, rfl⟩

theorem Lifecycle.frees_nothing (life : Lifecycle order told outcome)
    (unlent : ∀ region block buffer, ⟨.allocate region block, .ok buffer⟩ ∉ told) :
    told.countP isFree = 0 := by
  cases life with
  | unlent none early =>
    exact List.countP_eq_zero.mpr fun exchange member => by simp [(none.mem member).2.1]
  | abandoned finalized laid unprepared => exact (unlent _ _ _ (.tail _ (.head _))).elim
  | submitted finalized arity laid prepared handed => exact (unlent _ _ _ (.tail _ (.head _))).elim

theorem Lifecycle.release_ignored {first rest others : List (Exchange M P)} {region : Nat} {given : Buffer}
    {reply other : Except DriverError Unit} {ended : Outcome}
    (life : Lifecycle order (first ++ ⟨.free region given, reply⟩ :: rest) outcome)
    (again : Lifecycle order (first ++ ⟨.free region given, other⟩ :: others) ended)
    (unsubmitted : first.countP isDispatch = 0) : ended = outcome := by
  obtain ⟨_, _, lent, layout, bytes, cause, shape, laid, failed, rfl⟩ := life.of_free unsubmitted
  obtain ⟨_, _, relent, _, _, _, reshape, relaid, refailed, rfl⟩ := again.of_free unsubmitted
  rw [shape] at reshape
  cases reshape
  rw [laid] at relaid
  cases relaid
  rw [failed] at refailed
  cases refailed
  rfl

theorem Lifecycle.dispatches_filled (life : Lifecycle order told outcome) {submission : Submission}
    {reply : Except DriverError Unit} (member : ⟨.dispatch submission, reply⟩ ∈ told) :
    ∃ region block buffer layout slots released,
      [⟨.allocate region block, .ok buffer⟩, ⟨.dispatch submission, reply⟩,
        ⟨.free region submission.kernargs, released⟩].Sublist told ∧
      submission.kernargs.SameMemory buffer ∧
      Layout.ofSignature order.options.abi order.handle.types = .ok layout ∧
      marshalAll order.homes order.arguments order.handle.types = .ok slots ∧
      slots.length = order.handle.types.length ∧ layout.Holds slots submission.kernargs.bytes := by
  obtain ⟨opening, region, block, buffer, layout, bytes, slots, released, finalized, arity, laid,
    prepared, handed, -, shape⟩ := life.of_dispatch member
  obtain ⟨marshaled, filled⟩ := prepare_eq_ok prepared
  have length : slots.length = order.handle.types.length := by
    rw [(marshalFrom_eq_ok marshaled).1, List.length_zip, arity, Nat.min_self]
  refine ⟨region, block, buffer, layout, slots, released, ?_, ?_, laid, marshaled, length, ?_⟩
  · rw [shape]
    exact List.sublist_cons_self ..
  · rw [handed]
    exact ⟨rfl, rfl, rfl⟩
  · rw [handed]
    exact holds_of_fill (Layout.sound_of_ofSignature laid) filled

/-- The rules that the driver calls of a launch obey, in whatever way the driver answers them. That
one call comes before another is said by a sublist of all exchanges. -/
structure Disciplined (order : LaunchOrder) (log : List (Exchange M P)) (outcome : Outcome) : Prop where
  allocates_once : log.countP isAllocation ≤ 1
  allocates_finalized : ∀ region block reply, ⟨.allocate region block, reply⟩ ∈ log →
    ∃ opening : Exchange M P, opening.Finalized ∧ [opening, ⟨.allocate region block, reply⟩].Sublist log
  frees_nothing : (∀ region block buffer, ⟨.allocate region block, .ok buffer⟩ ∉ log) →
    log.countP isFree = 0
  frees_once : ∀ region block buffer, ⟨.allocate region block, .ok buffer⟩ ∈ log →
    log.countP isFree = 1 ∧ ∃ given reply, given.SameMemory buffer ∧
      [⟨.allocate region block, .ok buffer⟩, ⟨.free region given, reply⟩].Sublist log
  dispatches_once : log.countP isDispatch ≤ 1
  /-- Every argument is in the buffer that is submitted, and the buffer is freed only afterwards. -/
  dispatches_filled : ∀ submission reply, ⟨.dispatch submission, reply⟩ ∈ log →
    ∃ region block buffer layout slots released,
      [⟨.allocate region block, .ok buffer⟩, ⟨.dispatch submission, reply⟩,
        ⟨.free region submission.kernargs, released⟩].Sublist log ∧
      submission.kernargs.SameMemory buffer ∧
      Layout.ofSignature order.options.abi order.handle.types = .ok layout ∧
      marshalAll order.homes order.arguments order.handle.types = .ok slots ∧
      slots.length = order.handle.types.length ∧ layout.Holds slots submission.kernargs.bytes
  dispatch_error : ∀ cause, outcome = refuse (.dispatch (symbol order) cause) ↔
    ∃ submission, ⟨.dispatch submission, .error cause⟩ ∈ log
  release_error : ∀ cause, outcome = refuse (.release cause) ↔
    (∃ submission, ⟨.dispatch submission, .ok ()⟩ ∈ log) ∧
      ∃ region buffer, ⟨.free region buffer, .error cause⟩ ∈ log
  unprepared : ∀ region block buffer layout bytes cause,
    ⟨.allocate region block, .ok buffer⟩ ∈ log →
    Layout.ofSignature order.options.abi order.handle.types = .ok layout →
    prepare order layout buffer.bytes = (bytes, .error cause) →
    outcome = refuse cause ∧ log.countP isDispatch = 0
  /-- Where nothing was submitted, any other answer to the free gives the same outcome. -/
  release_ignored : ∀ before region buffer reply after,
    log = before ++ ⟨.free region buffer, reply⟩ :: after → before.countP isDispatch = 0 →
    ∀ other rest ended,
      Transcript (launch order) (before ++ ⟨.free region buffer, other⟩ :: rest) ended → ended = outcome

theorem launch_disciplined (held : Transcript (launch order) log outcome) :
    Disciplined order log outcome := by
  have life := launch_lifecycle order log outcome held
  have inLog : (log.filter essential).Sublist log := List.filter_sublist
  have told {exchange : Exchange M P} (member : exchange ∈ log) (kind : essential exchange = true) :
      exchange ∈ log.filter essential := List.mem_filter.mpr ⟨member, kind⟩
  have free_kind (exchange : Exchange M P) (free : exchange.isFree = true) : essential exchange = true := by
    simp only [essential, free, Bool.or_true]
  have dispatch_kind (exchange : Exchange M P) (dispatch : exchange.isDispatch = true) :
      essential exchange = true := by
    simp only [essential, dispatch, Bool.or_true, Bool.true_or]
  have allocation_kind (exchange : Exchange M P) (allocation : exchange.isAllocation = true) :
      essential exchange = true := by
    simp only [essential, allocation, Bool.or_true, Bool.true_or]
  constructor
  case allocates_once =>
    rw [← countP_essential allocation_kind]
    exact life.allocates_once
  case allocates_finalized =>
    intro region block reply member
    obtain ⟨opening, rest, finalized, shape⟩ := life.of_allocate (told member rfl)
    refine ⟨opening, finalized, .trans ?_ inLog⟩
    rw [shape]
    exact List.sublist_append_left ..
  case frees_nothing =>
    intro unlent
    rw [← countP_essential free_kind]
    exact life.frees_nothing fun region block buffer member =>
      unlent region block buffer (List.mem_filter.mp member).1
  case frees_once =>
    intro region block buffer member
    rw [← countP_essential free_kind]
    obtain ⟨once, given, reply, same, inOrder⟩ := life.frees_once (told member rfl)
    exact ⟨once, given, reply, same, inOrder.trans inLog⟩
  case dispatches_once =>
    rw [← countP_essential dispatch_kind]
    exact life.dispatches_once
  case dispatches_filled =>
    intro submission reply member
    obtain ⟨region, block, buffer, layout, slots, released, inOrder, rest⟩ :=
      life.dispatches_filled (told member rfl)
    exact ⟨region, block, buffer, layout, slots, released, inOrder.trans inLog, rest⟩
  case dispatch_error =>
    intro cause
    rw [life.dispatch_error cause]
    constructor
    · rintro ⟨submission, member⟩
      exact ⟨submission, inLog.mem member⟩
    · rintro ⟨submission, member⟩
      exact ⟨submission, told member rfl⟩
  case release_error =>
    intro cause
    rw [life.release_error cause]
    constructor
    · rintro ⟨⟨submission, submitted⟩, region, buffer, freed⟩
      exact ⟨⟨submission, inLog.mem submitted⟩, region, buffer, inLog.mem freed⟩
    · rintro ⟨⟨submission, submitted⟩, region, buffer, freed⟩
      exact ⟨⟨submission, told submitted rfl⟩, region, buffer, told freed rfl⟩
  case unprepared =>
    intro region block buffer layout bytes cause member laid failed
    rw [← countP_essential dispatch_kind]
    exact life.of_unprepared (told member rfl) laid failed
  case release_ignored =>
    intro before region buffer reply after same unsubmitted other rest ended again
    -- up to the free both transcripts agree, and what precedes it fixes the outcome
    have relive := launch_lifecycle order _ ended again
    rw [same, List.filter_append, List.filter_cons_of_pos rfl] at life
    rw [List.filter_append, List.filter_cons_of_pos rfl] at relive
    rw [← countP_essential dispatch_kind] at unsubmitted
    exact life.release_ignored relive unsubmitted

def single : LaunchOrder where
  handle := ⟨"", Image.build [⟨"&scale", 64⟩], "scale", [.scalar (.signed .bits16)]⟩
  configuration := {}
  arguments := [.int (-2)]
  options := { abi := ⟨1⟩, timed := false }
  homes _ := 0

/-- Both the dispatch and the free are refused: the first is what is told, and the buffer was offered
back once. -/
theorem launch_disciplined_obstructed :
    let driver := Rehearsal.answer { dispatch := some (.other "busy"), free := some (.other "lost") }
    let log := exchanges driver (launch single) { host := { context := .standard } }
    Disciplined single log (refuse (.dispatch (symbol single) (.other "busy"))) ∧
      log.countP isDispatch = 1 ∧ log.countP isFree = 1 :=
  ⟨launch_disciplined (transcript_run (Rehearsal.answer _) (launch single) _), rfl, rfl⟩

end Launch
end KernelLaunch
