import KernelLaunch.Alignment
import KernelLaunch.Bytes.Lemmas
import KernelLaunch.Kernarg.Reader
import KernelLaunch.Proofs.Splice

/-! What a reader answers wherever it stands. Bytes are taken from the reader's own offset on, and a typed
value from the next multiple of its width on. Both that multiple and the end of the part are computed in words,
before the end is compared with that of the buffer. So a part that leaves the buffer is refused only if its end
still fits a word; if not, the reader overflows. -/

namespace KernelLaunch

namespace Reader

/-- A single read: bytes as they come, or a value of a fixed width. The two parts of a complex number are two
reads. -/
inductive Request where
  | raw (size : UInt64)
  | scalar (type : ScalarType) (single : type.isComplex = false)
  | address

namespace Request

/-- The read begins at a multiple of this. -/
def width : Request → Nat
  | .raw _ => 1
  | .scalar type _ => type.size
  | .address => slotSize

def size : Request → Nat
  | .raw size => size.toNat
  | .scalar type _ => type.size
  | .address => slotSize

def Result : Request → Type
  | .raw _ => Bytes
  | .scalar type _ => type.Payload
  | .address => UInt64

/-- The bytes that a value is read from. -/
def bytes : (request : Request) → request.Result → Bytes
  | .raw _, content => content
  | .scalar type _, payload => type.encode payload
  | .address, target => Bytes.littleEndian slotSize (UInt64.toNat target)

def decode : (request : Request) → Bytes → request.Result
  | .raw _, content => content
  | .scalar (.signed width) _, content => BitVec.ofNat width.bits content.toNat
  | .scalar (.unsigned width) _, content => BitVec.ofNat width.bits content.toNat
  | .scalar (.real precision) _, content => BitVec.ofNat precision.width content.toNat
  | .scalar (.complex _) single, _ => nomatch single
  | .address, content => UInt64.ofNat content.toNat

theorem width_pos (request : Request) : 0 < request.width := by
  cases request with
  | raw size => exact Nat.one_pos
  | scalar type single => exact type.size_pos
  | address => decide

theorem bytes_decode {request : Request} {content : Bytes} (length : content.length = request.size) :
    request.bytes (request.decode content) = content := by
  cases request with
  | raw size => rfl
  | scalar type single =>
    cases type with
    | signed width | unsigned width => exact Bytes.littleEndian_ofNat (by cases width <;> decide) length
    | real precision => exact Bytes.littleEndian_ofNat (by cases precision <;> decide) length
    | complex precision => cases single
  | address =>
    have whole : 8 ∣ 64 := by decide
    exact Bytes.littleEndian_ofNat whole length

end Request

def answer (reader : Reader) : (request : Request) → Reading request.Result
  | .raw size => reader.readBytes size.toNat
  | .scalar type _ => reader.readPayload type
  | .address => reader.readAddress

/-- The bytes of a part that begins at a multiple of some width. Every request is one of these. -/
def part (reader : Reader) (width size : Nat) : Reading Bytes :=
  match reader.align width with
  | .error overflow => (.error (.overflow overflow), reader)
  | .ok aligned => aligned.readBytes size

theorem readNumber_eq (reader : Reader) (width : Nat) :
    reader.readNumber width = ((reader.part width width).1.map Bytes.toNat, (reader.part width width).2) := by
  unfold readNumber part
  cases reader.align width <;> rfl

theorem readBits_eq (reader : Reader) (bits : Nat) :
    reader.readBits bits =
      ((reader.part (bits / 8) (bits / 8)).1.map (fun content => BitVec.ofNat bits content.toNat),
        (reader.part (bits / 8) (bits / 8)).2) := by
  rw [readBits, readNumber_eq]
  cases (reader.part (bits / 8) (bits / 8)).1 <;> rfl

theorem answer_eq (reader : Reader) (request : Request) :
    reader.answer request =
      ((reader.part request.width request.size).1.map request.decode,
        (reader.part request.width request.size).2) := by
  cases request with
  | raw size =>
    have stays : reader.align 1 = .ok reader := by rw [align, if_pos (Nat.mod_one _)]
    have same : reader.part 1 size.toNat = reader.readBytes size.toNat := by rw [part, stays]
    simp only [answer, Request.width, Request.size, same]
    rcases reader.readBytes size.toNat with ⟨content, after⟩
    cases content <;> rfl
  | scalar type single =>
    cases type with
    | signed width | unsigned width => exact readBits_eq reader width.bits
    | real precision => exact readBits_eq reader precision.width
    | complex precision => cases single
  | address =>
    simp only [answer, readAddress, readNumber_eq, Request.width, Request.size]
    cases (reader.part slotSize slotSize).1 <;> rfl

variable {reader : Reader} {request : Request}

/-- Where the part begins that a request covers. -/
def first (reader : Reader) (request : Request) : Nat := roundUp reader.offset request.width

/-- Where that part ends. -/
def stop (reader : Reader) (request : Request) : Nat := reader.first request + request.size

theorem align_of_lt {width : Nat} (positive : 0 < width) (addressed : roundUp reader.offset width < wordLimit) :
    reader.align width = .ok (reader.seek (roundUp reader.offset width)) := by
  by_cases aligned : reader.offset % width = 0
  · rw [align, if_pos aligned, roundUp_of_aligned positive aligned]
    rfl
  · rw [roundUp_of_between positive aligned] at addressed ⊢
    rw [align, if_neg aligned, addWords_of_lt addressed]
    rfl

theorem align_of_le {width : Nat} (positive : 0 < width) (stands : reader.offset < wordLimit)
    (large : wordLimit ≤ roundUp reader.offset width) : reader.align width = .error .addition := by
  by_cases aligned : reader.offset % width = 0
  · rw [roundUp_of_aligned positive aligned] at large
    omega
  · rw [roundUp_of_between positive aligned] at large
    rw [align, if_neg aligned, addWords_of_le large]
    rfl

theorem readBytes_of_large {size : Nat} (large : wordLimit ≤ reader.offset + size) :
    reader.readBytes size = (.error (.overflow .addition), reader) := by
  simp only [readBytes, addWords_of_le large]

theorem readBytes_of_short {size : Nat} (addressed : reader.offset + size < wordLimit)
    (short : reader.buffer.length < reader.offset + size) :
    reader.readBytes size =
      (.error (.refused (.bufferTooSmall reader.offset size reader.buffer.length)), reader) := by
  simp only [readBytes, addWords_of_lt addressed, if_neg (Nat.not_le.mpr short)]

theorem readBytes_of_inside {size : Nat} (addressed : reader.offset + size < wordLimit)
    (inside : reader.offset + size ≤ reader.buffer.length) :
    reader.readBytes size =
      (.ok (reader.buffer.slice reader.offset size), reader.seek (reader.offset + size)) := by
  simp only [readBytes, addWords_of_lt addressed, if_pos inside, Bytes.slice]

theorem answer_of_aligned (addressed : reader.first request < wordLimit) :
    reader.answer request =
      (((reader.seek (reader.first request)).readBytes request.size).1.map request.decode,
        ((reader.seek (reader.first request)).readBytes request.size).2) := by
  rw [answer_eq, part, align_of_lt request.width_pos addressed]
  rfl

/-- The multiple itself does not fit a word. -/
theorem answer_of_unaligned (stands : reader.offset < wordLimit) (large : wordLimit ≤ reader.first request) :
    reader.answer request = (.error (.overflow .addition), reader) := by
  rw [answer_eq, part, align_of_le request.width_pos stands large]
  rfl

/-- The multiple fits a word, and the end of the part does not. -/
theorem answer_of_endless (addressed : reader.first request < wordLimit)
    (large : wordLimit ≤ reader.stop request) :
    reader.answer request = (.error (.overflow .addition), reader.seek (reader.first request)) := by
  rw [answer_of_aligned addressed, readBytes_of_large large]
  rfl

theorem answer_of_short (addressed : reader.stop request < wordLimit)
    (short : reader.buffer.length < reader.stop request) :
    reader.answer request =
      (.error (.refused (.bufferTooSmall (reader.first request) request.size reader.buffer.length)),
        reader.seek (reader.first request)) := by
  have aligned : reader.first request < wordLimit := Nat.lt_of_le_of_lt (Nat.le_add_right ..) addressed
  rw [answer_of_aligned aligned, readBytes_of_short addressed short]
  rfl

theorem answer_of_inside (addressed : reader.stop request < wordLimit)
    (inside : reader.stop request ≤ reader.buffer.length) :
    reader.answer request =
      (.ok (request.decode (reader.buffer.slice (reader.first request) request.size)),
        reader.seek (reader.stop request)) := by
  have aligned : reader.first request < wordLimit := Nat.lt_of_le_of_lt (Nat.le_add_right ..) addressed
  rw [answer_of_aligned aligned, readBytes_of_inside addressed inside]
  rfl

/-- All that a request can come to. -/
theorem answer_cases (stands : reader.offset < wordLimit) (request : Request) :
    (wordLimit ≤ reader.first request ∧ reader.answer request = (.error (.overflow .addition), reader)) ∨
    (reader.first request < wordLimit ∧ wordLimit ≤ reader.stop request ∧
      reader.answer request = (.error (.overflow .addition), reader.seek (reader.first request))) ∨
    (reader.stop request < wordLimit ∧ reader.buffer.length < reader.stop request ∧
      reader.answer request =
        (.error (.refused (.bufferTooSmall (reader.first request) request.size reader.buffer.length)),
          reader.seek (reader.first request))) ∨
    (reader.stop request < wordLimit ∧ reader.stop request ≤ reader.buffer.length ∧
      reader.answer request =
        (.ok (request.decode (reader.buffer.slice (reader.first request) request.size)),
          reader.seek (reader.stop request))) := by
  rcases Nat.lt_or_ge (reader.first request) wordLimit with aligned | unaligned
  · right
    rcases Nat.lt_or_ge (reader.stop request) wordLimit with addressed | endless
    · right
      rcases Nat.lt_or_ge reader.buffer.length (reader.stop request) with short | inside
      · exact .inl ⟨addressed, short, answer_of_short addressed short⟩
      · exact .inr ⟨addressed, inside, answer_of_inside addressed inside⟩
    · exact .inl ⟨aligned, endless, answer_of_endless aligned endless⟩
  · exact .inl ⟨unaligned, answer_of_unaligned stands unaligned⟩

inductive Step where
  | seek (offset : UInt64)
  | read (request : Request)

def step (reader : Reader) : Step → Reader
  | .seek offset => reader.seek offset.toNat
  | .read request => (reader.answer request).2

/-- The reader after some steps, whether or not their reads succeed. -/
def run (reader : Reader) (steps : List Step) : Reader := steps.foldl step reader

/-- A reader of a buffer at an offset that fits a word. -/
structure On (buffer : Bytes) (reader : Reader) : Prop where
  same : reader.buffer = buffer
  stands : reader.offset < wordLimit

theorem on_step {buffer : Bytes} (placed : reader.On buffer) (step : Step) : (reader.step step).On buffer := by
  cases step with
  | seek offset => exact ⟨placed.same, offset.toNat_lt⟩
  | read request =>
    obtain ⟨_, answered⟩ | ⟨aligned, _, answered⟩ | ⟨addressed, _, answered⟩ | ⟨addressed, _, answered⟩ :=
      answer_cases placed.stands request
    all_goals rw [Reader.step, answered]
    · exact placed
    · exact ⟨placed.same, aligned⟩
    · exact ⟨placed.same, Nat.lt_of_le_of_lt (Nat.le_add_right ..) addressed⟩
    · exact ⟨placed.same, addressed⟩

theorem on_run {buffer : Bytes} (placed : reader.On buffer) (steps : List Step) :
    (reader.run steps).On buffer := by
  induction steps generalizing reader with
  | nil => exact placed
  | cons step rest ih => exact ih (on_step placed step)

/-- How a request ends depends on where its part stops, and on nothing else. -/
theorem answer_iff {buffer : Bytes} (placed : reader.On buffer) (request : Request) :
    ((reader.answer request).1 = .error (.overflow .addition) ↔ wordLimit ≤ reader.stop request) ∧
    (reader.answer request =
        (.error (.refused (.bufferTooSmall (reader.first request) request.size buffer.length)),
          ⟨buffer, reader.first request⟩) ↔
      reader.stop request < wordLimit ∧ buffer.length < reader.stop request) ∧
    ((∃ value, reader.answer request = (.ok value, ⟨buffer, reader.stop request⟩) ∧
        request.bytes value = buffer.slice (reader.first request) request.size) ↔
      reader.stop request < wordLimit ∧ reader.stop request ≤ buffer.length) := by
  obtain ⟨rfl, stands⟩ := placed
  obtain ⟨unaligned, answered⟩ | ⟨_, endless, answered⟩ | ⟨addressed, short, answered⟩ |
    ⟨addressed, inside, answered⟩ := answer_cases stands request
  · have endless : wordLimit ≤ reader.stop request := Nat.le_trans unaligned (Nat.le_add_right ..)
    simp [answered, endless, Nat.not_lt.mpr endless]
  · simp [answered, endless, Nat.not_lt.mpr endless]
  · simp [answered, addressed, short, Nat.not_le.mpr addressed, Nat.not_le.mpr short, seek]
  · have content := Request.bytes_decode (Bytes.length_slice inside)
    simp [answered, addressed, inside, Nat.not_le.mpr addressed, Nat.not_lt.mpr inside, seek, content]

theorem width_dvd (request : Request) : request.width ∣ objectLimit + 1 := by
  cases request with
  | raw size => exact Nat.one_dvd _
  | scalar type single =>
    have every : ∀ size ∈ [1, 2, 4, 8, 16], size ∣ objectLimit + 1 := by decide
    exact every type.size type.size_mem
  | address => decide

/-- The first offset that no object reaches is a multiple of every width, so rounding up does not go beyond
it. -/
theorem first_le (near : reader.offset ≤ objectLimit + 1) (request : Request) :
    reader.first request ≤ objectLimit + 1 :=
  roundUp_le request.width_pos (width_dvd request) near

theorem near_step (near : reader.offset ≤ objectLimit + 1) (bounded : reader.buffer.length ≤ objectLimit)
    (stands : reader.offset < wordLimit) {step : Step}
    (sought : ∀ offset, step = .seek offset → offset.toNat ≤ objectLimit) :
    (reader.step step).offset ≤ objectLimit + 1 := by
  cases step with
  | seek offset => exact Nat.le_succ_of_le (sought offset rfl)
  | read request =>
    obtain ⟨_, answered⟩ | ⟨_, _, answered⟩ | ⟨_, _, answered⟩ | ⟨_, inside, answered⟩ :=
      answer_cases stands request
    all_goals rw [Reader.step, answered]
    · exact near
    · exact first_le near request
    · exact first_le near request
    · exact Nat.le_succ_of_le (Nat.le_trans inside bounded)

theorem near_run {buffer : Bytes} (placed : reader.On buffer) (bounded : buffer.length ≤ objectLimit)
    (near : reader.offset ≤ objectLimit + 1) {steps : List Step}
    (sought : ∀ offset, .seek offset ∈ steps → offset.toNat ≤ objectLimit) :
    (reader.run steps).offset ≤ objectLimit + 1 := by
  induction steps generalizing reader with
  | nil => exact near
  | cons step rest ih =>
    apply ih (on_step placed step)
    · apply near_step near (placed.same ▸ bounded) placed.stands
      rintro offset rfl
      exact sought offset List.mem_cons_self
    · intro offset member
      exact sought offset (List.mem_cons_of_mem _ member)

/-- After any steps of a reader placed anywhere, the next read overflows just when the end of its part does not
fit a word, is refused just when this end fits a word and lies beyond the buffer, and else gives the value of
the bytes of its part and stands behind them. Nothing overflows as long as the buffer, the offsets that the
reader is put at and the bytes asked for are no larger than any object. -/
theorem reads_settled (buffer : Bytes) (start : UInt64) (steps : List Step) (request : Request) :
    let reader := run ⟨buffer, start.toNat⟩ steps
    let first := reader.first request
    let stop := reader.stop request
    ((reader.answer request).1 = .error (.overflow .addition) ↔ wordLimit ≤ stop) ∧
    (reader.answer request =
        (.error (.refused (.bufferTooSmall first request.size buffer.length)), ⟨buffer, first⟩) ↔
      stop < wordLimit ∧ buffer.length < stop) ∧
    ((∃ value, reader.answer request = (.ok value, ⟨buffer, stop⟩) ∧
        request.bytes value = buffer.slice first request.size) ↔
      stop < wordLimit ∧ stop ≤ buffer.length) ∧
    (buffer.length ≤ objectLimit → start.toNat ≤ objectLimit →
      (∀ offset, .seek offset ∈ steps → offset.toNat ≤ objectLimit) → request.size ≤ objectLimit →
      stop < wordLimit) := by
  intro reader first stop
  have started : On buffer ⟨buffer, start.toNat⟩ := ⟨rfl, start.toNat_lt⟩
  obtain ⟨overflows, refused, read⟩ := answer_iff (on_run started steps) request
  refine ⟨overflows, refused, read, ?_⟩
  intro bounded low sought small
  have near := first_le (near_run started bounded (Nat.le_succ_of_le low) sought) request
  have limits : objectLimit + 1 + objectLimit < wordLimit := by decide
  exact Nat.lt_of_le_of_lt (Nat.add_le_add near small) limits

/-- As far as offsets of objects lead: a refused read leaves the reader at the first offset that no object
reaches, and the largest object that is asked for there ends at the last offset of all. -/
theorem reads_settled_far :
    let reader := run ⟨[0xAA, 0xBB], 1⟩ [.seek 0x7fffffffffffffff, .read .address]
    reader.offset = 0x8000000000000000 ∧
      reader.answer (.raw 0x7fffffffffffffff) =
        (.error (.refused (.bufferTooSmall 0x8000000000000000 0x7fffffffffffffff 2)),
          ⟨[0xAA, 0xBB], 0x8000000000000000⟩) := by
  intro reader
  have sought : ∀ offset, .seek offset ∈ [Step.seek 0x7fffffffffffffff, .read .address] →
      offset.toNat ≤ objectLimit := by
    intro offset member
    cases member with
    | head => decide
    | tail _ later => exact nomatch later
  obtain ⟨_, refused, _, objects⟩ := reads_settled [0xAA, 0xBB] 1
    [.seek 0x7fffffffffffffff, .read .address] (.raw 0x7fffffffffffffff)
  have addressed := objects (by decide) (by decide) sought (by decide)
  exact ⟨rfl, refused.mpr ⟨addressed, by decide⟩⟩

/-- Neither a huge part behind a small offset nor a value at the last offset of all is refused. -/
theorem read_past_words :
    (Reader.mk [0xAA] 1).answer (.raw 0xffffffffffffffff) = (.error (.overflow .addition), ⟨[0xAA], 1⟩) ∧
      (Reader.mk [0xAA] 0xffffffffffffffff).answer .address =
        (.error (.overflow .addition), ⟨[0xAA], 0xffffffffffffffff⟩) :=
  ⟨rfl, rfl⟩

end Reader
end KernelLaunch
