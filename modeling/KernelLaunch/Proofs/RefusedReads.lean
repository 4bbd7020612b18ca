import KernelLaunch.Proofs.ReadOutcomes

/-! What a refused read does to the reads after it. Bytes are refused before the reader moves. A typed read has
brought the reader up to a multiple of its width by then, and leaves it there: the bytes in front of that
multiple are passed over, although none of them was read. So a refused read leaves no trace just where the
reader stood on a multiple of the width before. -/

namespace KernelLaunch

namespace Reader

/-- The request is refused for want of bytes. -/
def Refuses (reader : Reader) (request : Request) : Prop :=
  ∃ offset size length,
    (reader.answer request).1 = .error (.refused (.bufferTooSmall offset size length))

variable {reader : Reader} {request later : Request}

theorem refuses_iff (stands : reader.offset < wordLimit) :
    reader.Refuses request ↔ reader.stop request < wordLimit ∧ reader.buffer.length < reader.stop request := by
  constructor
  · rintro ⟨offset, size, length, refused⟩
    obtain ⟨_, answered⟩ | ⟨_, _, answered⟩ | ⟨addressed, short, _⟩ | ⟨_, _, answered⟩ :=
      answer_cases stands request
    case inr.inr.inl => exact ⟨addressed, short⟩
    all_goals
      rw [answered] at refused
      cases refused
  · rintro ⟨addressed, short⟩
    exact ⟨_, _, _, by rw [answer_of_short addressed short]⟩

theorem step_of_refuses (stands : reader.offset < wordLimit) (refused : reader.Refuses request) :
    reader.step (.read request) = reader.seek (reader.first request) := by
  obtain ⟨addressed, short⟩ := (refuses_iff stands).mp refused
  rw [step, answer_of_short addressed short]

theorem first_eq_offset_iff : reader.first request = reader.offset ↔ request.width ∣ reader.offset :=
  roundUp_eq_self_iff request.width_pos

theorem first_gt_of_unaligned (unaligned : ¬ request.width ∣ reader.offset) :
    reader.offset < reader.first request :=
  Nat.lt_of_le_of_ne (le_roundUp _ request.width_pos) fun same =>
    unaligned (first_eq_offset_iff.mp same.symm)

/-- A coarser read moves on to where it would have moved anyway. -/
theorem answer_seek_first (divides : request.width ∣ later.width) (addressed : reader.first later < wordLimit) :
    (reader.seek (reader.first request)).answer later = reader.answer later := by
  have same : (reader.seek (reader.first request)).first later = reader.first later :=
    roundUp_roundUp later.width_pos divides
  have again : (reader.seek (reader.first request)).first later < wordLimit := by
    rw [same]
    exact addressed
  rw [answer_of_aligned again, same, answer_of_aligned addressed]
  rfl

/-! ### What is lost -/

/-- The bytes from the reader to the end of the buffer; none if it stands beyond that end. -/
def remaining (reader : Reader) : Request := .raw (UInt64.ofNat (reader.buffer.length - reader.offset))

theorem first_remaining (reached : Reader) : reached.first reader.remaining = reached.offset :=
  roundUp_of_aligned Nat.one_pos (Nat.mod_one _)

section
variable (counted : reader.buffer.length < wordLimit)
include counted

theorem size_remaining : reader.remaining.size = reader.buffer.length - reader.offset :=
  UInt64.toNat_ofNat_of_lt' (Nat.lt_of_le_of_lt (Nat.sub_le ..) counted)

theorem answer_remaining (inside : reader.offset ≤ reader.buffer.length) :
    (reader.answer reader.remaining).1 = .ok (reader.buffer.drop reader.offset) := by
  have size := size_remaining counted
  have ends : reader.stop reader.remaining = reader.buffer.length := by
    rw [stop, first_remaining, size]
    omega
  have addressed : reader.stop reader.remaining < wordLimit := by
    rw [ends]
    exact counted
  have content : reader.buffer.slice reader.offset reader.remaining.size = reader.buffer.drop reader.offset := by
    apply List.take_of_length_le
    rw [List.length_drop, size]
  rw [answer_of_inside addressed (Nat.le_of_eq ends), first_remaining, content]
  rfl

/-- A reader that stands further on cannot give as many bytes. -/
theorem answer_remaining_later (reached : Reader) (same : reached.buffer = reader.buffer)
    (stands : reached.offset < wordLimit) (inside : reader.offset ≤ reader.buffer.length)
    (further : reader.offset < reached.offset) (content : Bytes) :
    (reached.answer reader.remaining).1 ≠ .ok content := by
  intro answered
  obtain ⟨_, other⟩ | ⟨_, _, other⟩ | ⟨_, _, other⟩ | ⟨_, within, _⟩ :=
    answer_cases stands reader.remaining
  case inr.inr.inr =>
    rw [stop, first_remaining, size_remaining counted, same] at within
    omega
  all_goals
    rw [other] at answered
    cases answered

/-- Beyond the buffer nothing is read, but a refusal names the offset that it was for. -/
theorem answer_remaining_beyond (reached : Reader) (same : reached.buffer = reader.buffer)
    (stands : reached.offset < wordLimit) (beyond : reader.buffer.length < reader.offset)
    (further : reader.offset < reached.offset) :
    (reached.answer reader.remaining).1 ≠ (reader.answer reader.remaining).1 := by
  have nothing : reader.remaining.size = 0 := by
    rw [size_remaining counted]
    omega
  have ends (place : Reader) : place.stop reader.remaining = place.offset := by
    rw [stop, first_remaining, nothing, Nat.add_zero]
  have refused (place : Reader) (standing : place.offset < wordLimit) (outside : place.buffer.length < place.offset) :
      (place.answer reader.remaining).1 =
        .error (.refused (.bufferTooSmall place.offset 0 place.buffer.length)) := by
    rw [← ends place] at standing outside
    rw [answer_of_short standing outside, first_remaining, nothing]
  rw [refused reached stands (by rw [same]; exact Nat.lt_trans beyond further),
    refused reader (Nat.lt_trans further stands) beyond]
  intro equal
  injection equal with equal
  injection equal with equal
  injection equal with offset
  exact absurd offset (Nat.ne_of_gt further)

end

/-- A refused read makes no difference to any later one just where it did not move the reader. -/
theorem unnoticed_iff {buffer : Bytes} (placed : reader.On buffer) (refused : reader.Refuses request) :
    (∀ steps later, (((reader.step (.read request)).run steps).answer later).1 =
        ((reader.run steps).answer later).1) ↔
      request.width ∣ reader.offset := by
  rw [step_of_refuses placed.stands refused]
  constructor
  · intro unnoticed
    apply Classical.byContradiction
    intro unaligned
    obtain ⟨addressed, short⟩ := (refuses_iff placed.stands).mp refused
    have counted : reader.buffer.length < wordLimit := Nat.lt_trans short addressed
    have stands : reader.first request < wordLimit := Nat.lt_of_le_of_lt (Nat.le_add_right ..) addressed
    have further : reader.offset < reader.first request := first_gt_of_unaligned unaligned
    let moved := reader.seek (reader.first request)
    have same : (moved.answer reader.remaining).1 = (reader.answer reader.remaining).1 :=
      unnoticed [] reader.remaining
    rcases Nat.lt_or_ge reader.buffer.length reader.offset with beyond | inside
    · exact answer_remaining_beyond counted moved rfl stands beyond further same
    · exact answer_remaining_later counted moved rfl stands inside further _
        (same.trans (answer_remaining counted inside))
  · intro aligned steps later
    rw [first_eq_offset_iff.mpr aligned]
    rfl

/-- Wherever a reader has come to, a refused read leaves it at the multiple of the width that the read began
at. That is the offset from before just if the reader stood on a multiple, and just then every later read gives
what it would have given without the refused one. If not, the rest of the buffer could still have been read, and
no longer can be. Reads for which the reader moves up at least as far are not affected. -/
theorem refused_reads (buffer : Bytes) (start : UInt64) (steps : List Step) (request : Request)
    (refused : (run ⟨buffer, start.toNat⟩ steps).Refuses request) :
    let reader := run ⟨buffer, start.toNat⟩ steps
    let after := reader.step (.read request)
    after = ⟨buffer, reader.first request⟩ ∧
    (after.offset = reader.offset ↔ request.width ∣ reader.offset) ∧
    ((∀ steps later, ((after.run steps).answer later).1 = ((reader.run steps).answer later).1) ↔
      request.width ∣ reader.offset) ∧
    (¬ request.width ∣ reader.offset → reader.offset ≤ buffer.length →
      (reader.answer reader.remaining).1 = .ok (buffer.drop reader.offset) ∧
        ∀ content : Bytes, (after.answer reader.remaining).1 ≠ .ok content) ∧
    ∀ later : Request, request.width ∣ later.width → reader.first later < wordLimit →
      after.answer later = reader.answer later := by
  intro reader after
  have started : On buffer ⟨buffer, start.toNat⟩ := ⟨rfl, start.toNat_lt⟩
  have placed : reader.On buffer := on_run started steps
  have moved : after = reader.seek (reader.first request) := step_of_refuses placed.stands refused
  obtain ⟨addressed, short⟩ := (refuses_iff placed.stands).mp refused
  refine ⟨?_, ?_, unnoticed_iff placed refused, ?_, ?_⟩
  · rw [moved, seek, placed.same]
  · rw [moved]
    exact first_eq_offset_iff
  · intro unaligned inside
    have counted : reader.buffer.length < wordLimit := Nat.lt_trans short addressed
    rw [moved, ← placed.same]
    rw [← placed.same] at inside
    refine ⟨answer_remaining counted inside, ?_⟩
    have stands : reader.first request < wordLimit := Nat.lt_of_le_of_lt (Nat.le_add_right ..) addressed
    exact answer_remaining_later counted (reader.seek (reader.first request)) rfl stands inside
      (first_gt_of_unaligned unaligned)
  · intro later divides fits
    rw [moved]
    exact answer_seek_first divides fits

/-- A word that begins in the middle of the buffer and ends behind it: the five bytes that are there are lost
with it, and an address that begins where the word would have is as far away as before. -/
theorem refused_reads_unaligned :
    let word : Request := .scalar (.unsigned .bits32) rfl
    let reader := run ⟨[1, 2, 3, 4, 5, 6], 0⟩ [.read (.raw 1)]
    let after := reader.step (.read word)
    after.offset = 4 ∧ ¬ word.width ∣ reader.offset ∧
      (reader.answer (.raw 5)).1 = .ok [2, 3, 4, 5, 6] ∧
      (∀ content : Bytes, (after.answer (.raw 5)).1 ≠ .ok content) ∧
      after.answer .address = reader.answer .address := by
  intro word reader after
  have refused : reader.Refuses word := ⟨4, 4, 6, rfl⟩
  obtain ⟨moved, _, _, lost, kept⟩ := refused_reads [1, 2, 3, 4, 5, 6] 0 [.read (.raw 1)] word refused
  have unaligned : ¬ word.width ∣ reader.offset := by decide
  obtain ⟨remaining, gone⟩ := lost unaligned (by decide)
  exact ⟨(congrArg offset moved).trans (by decide), unaligned, remaining, gone, kept .address (by decide) (by decide)⟩

/-- The word is refused, and the byte that the reader stood at is refused after it. -/
theorem refused_read_moves :
    let word : Request := .scalar (.unsigned .bits32) rfl
    let byte : Request := .scalar (.unsigned .bits8) rfl
    let reader : Reader := ⟨[0xAA, 0xBB, 0xCC], 1⟩
    let after := reader.step (.read word)
    reader.Refuses word ∧ after.offset = 4 ∧ reader.answer byte = (.ok 0xBB#8, ⟨[0xAA, 0xBB, 0xCC], 2⟩) ∧
      after.Refuses byte :=
  ⟨⟨4, 4, 3, rfl⟩, rfl, rfl, ⟨4, 1, 3, rfl⟩⟩

end Reader
end KernelLaunch
