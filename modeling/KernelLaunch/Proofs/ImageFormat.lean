import KernelLaunch.Bytes.Lemmas
import KernelLaunch.Host.Context

/-! Native images are read exactly: an image is accepted when it is what writing some symbols of
different names gives, and then those symbols are what is found in it. Every field fixes how many
bytes it takes, so each reader has two lemmas: it reads back what was written whatever comes behind,
and what it has read is what writing would have given. -/

namespace KernelLaunch

namespace SymbolTable

variable {table larger : SymbolTable} {symbol : Symbol}

theorem insert?_eq_none_iff : table.insert? symbol = none ↔ symbol.name ∈ table.symbols.map Symbol.name := by
  unfold insert?
  split
  · rename_i taken
    exact ⟨fun _ => taken, fun _ => rfl⟩
  · rename_i fresh
    exact ⟨nofun, fun taken => absurd taken fresh⟩

theorem symbols_insert? (inserted : table.insert? symbol = some larger) :
    larger.symbols = table.symbols ++ [symbol] := by
  unfold insert? at inserted
  split at inserted
  · cases inserted
  · cases inserted
    rfl

/-- A symbol of a new name is taken, and leaves those behind it to be taken. -/
theorem insert?_of_nodup {later : List Symbol}
    (distinct : ((table.symbols ++ symbol :: later).map Symbol.name).Nodup) :
    ∃ larger, table.insert? symbol = some larger ∧
      larger.symbols ++ later = table.symbols ++ symbol :: later := by
  cases inserted : table.insert? symbol with
  | none =>
    have taken := insert?_eq_none_iff.mp inserted
    rw [List.map_append, List.map_cons] at distinct
    exact absurd rfl ((List.nodup_append.mp distinct).2.2 _ taken _ List.mem_cons_self)
  | some larger =>
    refine ⟨larger, rfl, ?_⟩
    rw [symbols_insert? inserted, List.append_assoc, List.singleton_append]

/-- No two symbols of a table share a name, so the one that a name leads to is the one that has it. -/
theorem find?_eq_some_iff {name : String} {offset : UInt64} :
    table.find? name = some offset ↔ ⟨name, offset⟩ ∈ table.symbols := by
  constructor
  · intro found
    obtain ⟨symbol, first, rfl⟩ := Option.map_eq_some_iff.mp found
    obtain ⟨named, _⟩ := List.find?_eq_some_iff_append.mp first
    obtain rfl := beq_iff_eq.mp named
    exact List.mem_of_find?_eq_some first
  · intro member
    cases first : table.symbols.find? fun symbol => symbol.name == name with
    | none => exact absurd (beq_iff_eq.mpr rfl) (List.find?_eq_none.mp first _ member)
    | some symbol =>
      obtain ⟨named, _⟩ := List.find?_eq_some_iff_append.mp first
      have same := List.inj_on_of_nodup_map table.distinct (List.mem_of_find?_eq_some first) member
        (beq_iff_eq.mp named)
      rw [find?, first, same, Option.map_some]

end SymbolTable

namespace Image

/-- Symbols that fit the widths of an image's fields. -/
structure Storable (symbols : List Symbol) : Prop where
  count : symbols.length < 0x100000000
  names : ∀ symbol ∈ symbols, (Bytes.ofText symbol.name).length < 0x100000000

namespace Cursor

variable {α : Type}

/-- A reader takes just these bytes for a value, whatever comes behind them. -/
def Reads (read : Cursor → Except ImageError (α × Cursor)) (bytes : Bytes) (value : α) : Prop :=
  ∀ offset rest, read ⟨offset, bytes ++ rest⟩ = .ok (value, ⟨offset + bytes.length, rest⟩)

theorem reads_take (bytes : Bytes) : Reads (take · bytes.length) bytes bytes := by
  intro offset rest
  have enough : bytes.length ≤ (bytes ++ rest).length := by
    rw [List.length_append]
    exact Nat.le_add_right ..
  simp only [take, if_pos enough, List.take_left, List.drop_left]

theorem take_eq_ok {cursor after : Cursor} {count : Nat} {bytes : Bytes}
    (read : cursor.take count = .ok (bytes, after)) :
    bytes.length = count ∧ cursor.rest = bytes ++ after.rest := by
  simp only [take] at read
  split at read
  · cases read
    refine ⟨?_, (List.take_append_drop ..).symm⟩
    rw [List.length_take]
    omega
  · cases read

theorem reads_number (width : Nat) {number : Nat} (small : number < 256 ^ width) :
    Reads (Cursor.number · width) (Bytes.littleEndian width number) number := by
  intro offset rest
  have taken := reads_take (Bytes.littleEndian width number) offset rest
  simp only [Bytes.length_littleEndian] at taken
  simp only [Cursor.number, taken, Except.map, Bytes.toNat_littleEndian, Nat.mod_eq_of_lt small,
    Bytes.length_littleEndian]

theorem number_eq_ok {cursor after : Cursor} {width number : Nat}
    (read : cursor.number width = .ok (number, after)) :
    number < 256 ^ width ∧ cursor.rest = Bytes.littleEndian width number ++ after.rest := by
  obtain ⟨⟨bytes, next⟩, taken, same⟩ := map_eq_ok.mp read
  cases same
  obtain ⟨rfl, split⟩ := take_eq_ok taken
  rw [Bytes.littleEndian_toNat]
  exact ⟨Bytes.toNat_lt bytes, split⟩

theorem reads_symbol {symbol : Symbol} (short : (Bytes.ofText symbol.name).length < 0x100000000) :
    Reads Cursor.symbol (encodeSymbol symbol) symbol := by
  intro offset rest
  have length : Reads (Cursor.number · 4) _ (Bytes.ofText symbol.name).length := reads_number 4 short
  have place : Reads (Cursor.number · 8) _ symbol.offset.toNat := reads_number 8 symbol.offset.toNat_lt
  have name := Utf8.decode_eq_ok_iff.mpr (rfl : Bytes.ofText symbol.name = _)
  have taken := reads_take (Bytes.ofText symbol.name)
  simp only [Reads] at length place taken
  simp only [Cursor.symbol, encodeSymbol, List.append_assoc, length, taken, name, place, Except.mapError,
    bind, Except.bind, pure, Except.pure, UInt64.ofNat_toNat, List.length_append]
  congr 3
  omega

theorem symbol_eq_ok {cursor after : Cursor} {symbol : Symbol} (read : cursor.symbol = .ok (symbol, after)) :
    (Bytes.ofText symbol.name).length < 0x100000000 ∧ cursor.rest = encodeSymbol symbol ++ after.rest := by
  obtain ⟨⟨length, first⟩, lengthRead, read⟩ := bind_eq_ok.mp read
  obtain ⟨⟨bytes, second⟩, bytesRead, read⟩ := bind_eq_ok.mp read
  obtain ⟨name, nameRead, read⟩ := bind_eq_ok.mp read
  obtain ⟨⟨offset, third⟩, offsetRead, same⟩ := bind_eq_ok.mp read
  cases same
  obtain ⟨small, before⟩ := number_eq_ok lengthRead
  obtain ⟨rfl, text⟩ := take_eq_ok bytesRead
  obtain ⟨wide, behind⟩ := number_eq_ok offsetRead
  have spelled : bytes = Bytes.ofText name := by
    cases decoded : Utf8.decode bytes with
    | error fault =>
      rw [decoded] at nameRead
      cases nameRead
    | ok text =>
      rw [decoded] at nameRead
      cases nameRead
      exact Utf8.decode_eq_ok_iff.mp decoded
  subst spelled
  refine ⟨small, ?_⟩
  rw [before, text, behind, encodeSymbol, UInt64.toNat_ofNat_of_lt' wide]
  simp only [List.append_assoc]

variable {symbols : List Symbol} {table larger : SymbolTable}

theorem reads_symbols (table : SymbolTable)
    (short : ∀ symbol ∈ symbols, (Bytes.ofText symbol.name).length < 0x100000000)
    (distinct : ((table.symbols ++ symbols).map Symbol.name).Nodup) :
    ∃ larger, larger.symbols = table.symbols ++ symbols ∧
      Reads (Cursor.symbols symbols.length table) (symbols.flatMap encodeSymbol) larger := by
  induction symbols generalizing table with
  | nil => exact ⟨table, (List.append_nil _).symm, fun _ _ => rfl⟩
  | cons symbol symbols ih =>
    obtain ⟨next, inserted, whole⟩ := SymbolTable.insert?_of_nodup distinct
    obtain ⟨larger, same, read⟩ := ih next (fun other later => short other (List.mem_cons_of_mem _ later))
      (whole ▸ distinct)
    refine ⟨larger, same.trans whole, ?_⟩
    intro offset rest
    have first := reads_symbol (short symbol List.mem_cons_self) offset
      (symbols.flatMap encodeSymbol ++ rest)
    rw [List.flatMap_cons, List.append_assoc, List.length_cons, Cursor.symbols, first]
    simp only [inserted]
    rw [read, List.length_append, Nat.add_assoc]

theorem symbols_duplicate (table : SymbolTable) {before later : List Symbol} {symbol : Symbol}
    (short : ∀ other ∈ before ++ symbol :: later, (Bytes.ofText other.name).length < 0x100000000)
    (distinct : ((table.symbols ++ before).map Symbol.name).Nodup)
    (taken : symbol.name ∈ (table.symbols ++ before).map Symbol.name) (offset : Nat) (rest : Bytes) :
    Cursor.symbols (before ++ symbol :: later).length table
        ⟨offset, (before ++ symbol :: later).flatMap encodeSymbol ++ rest⟩ =
      .error (.duplicate symbol.name) := by
  induction before generalizing table offset with
  | nil =>
    rw [List.append_nil] at taken
    have first := reads_symbol (short symbol List.mem_cons_self) offset
      (later.flatMap encodeSymbol ++ rest)
    rw [List.nil_append, List.flatMap_cons, List.append_assoc, List.length_cons, Cursor.symbols, first]
    simp only [SymbolTable.insert?_eq_none_iff.mpr taken]
  | cons head before ih =>
    have first := reads_symbol (short head List.mem_cons_self) offset
      ((before ++ symbol :: later).flatMap encodeSymbol ++ rest)
    rw [List.cons_append, List.flatMap_cons, List.append_assoc, List.length_cons, Cursor.symbols, first]
    obtain ⟨next, inserted, whole⟩ := SymbolTable.insert?_of_nodup distinct
    simp only [inserted]
    exact ih next (fun other member => short other (List.mem_cons_of_mem _ member)) (whole ▸ distinct)
      (whole ▸ taken) _

theorem symbols_eq_ok {count : Nat} {cursor after : Cursor}
    (read : cursor.symbols count table = .ok (larger, after)) :
    ∃ symbols, symbols.length = count ∧ larger.symbols = table.symbols ++ symbols ∧
      (∀ symbol ∈ symbols, (Bytes.ofText symbol.name).length < 0x100000000) ∧
      cursor.rest = symbols.flatMap encodeSymbol ++ after.rest := by
  induction count generalizing table cursor with
  | zero =>
    cases read
    exact ⟨[], rfl, (List.append_nil _).symm, nofun, rfl⟩
  | succ count ih =>
    rw [Cursor.symbols] at read
    cases first : cursor.symbol with
    | error fault =>
      rw [first] at read
      cases read
    | ok result =>
      obtain ⟨symbol, next⟩ := result
      simp only [first] at read
      cases inserted : table.insert? symbol with
      | none =>
        rw [inserted] at read
        cases read
      | some table =>
        rw [inserted] at read
        obtain ⟨symbols, rfl, added, short, rest⟩ := ih read
        obtain ⟨small, split⟩ := symbol_eq_ok first
        refine ⟨symbol :: symbols, rfl, ?_, ?_, ?_⟩
        · rw [added, SymbolTable.symbols_insert? inserted, List.append_assoc, List.singleton_append]
        · intro other member
          rcases List.mem_cons.mp member with rfl | later
          · exact small
          · exact short other later
        · rw [split, rest, List.flatMap_cons, List.append_assoc]

end Cursor

/-- Where an image begins with a magic number and a count, the symbols and what comes behind them are
left to be judged. -/
theorem parse_build_append {symbols : List Symbol} (few : symbols.length < 0x100000000) (rest : Bytes) :
    parse (build symbols ++ rest) =
      match Cursor.symbols symbols.length {} ⟨8, symbols.flatMap encodeSymbol ++ rest⟩ with
      | .error fault => .error fault
      | .ok (table, cursor) =>
        if cursor.rest = [] then .ok table else .error (.trailing cursor.rest.length) := by
  have opening (rest : Bytes) : Cursor.take ⟨0, magic ++ rest⟩ magic.length = .ok (magic, ⟨4, rest⟩) :=
    Cursor.reads_take magic 0 rest
  have count (rest : Bytes) : Cursor.number ⟨4, Bytes.littleEndian 4 symbols.length ++ rest⟩ 4 =
      .ok (symbols.length, ⟨8, rest⟩) :=
    Cursor.reads_number 4 few 4 rest
  rw [parse, build, List.append_assoc, List.append_assoc, opening]
  simp only [bind, Except.bind, ne_eq, not_true_eq_false, if_false, count]
  cases Cursor.symbols symbols.length {} ⟨8, symbols.flatMap encodeSymbol ++ rest⟩ with
  | error fault => rfl
  | ok result =>
    obtain ⟨table, cursor⟩ := result
    by_cases ended : cursor.rest = [] <;> simp only [ended, not_true_eq_false, not_false_eq_true] <;> rfl

theorem parse_build {symbols : List Symbol} (storable : Storable symbols)
    (distinct : (symbols.map Symbol.name).Nodup) :
    ∃ table, table.symbols = symbols ∧ ∀ rest, parse (build symbols ++ rest) =
      if rest = [] then .ok table else .error (.trailing rest.length) := by
  obtain ⟨table, same, read⟩ := Cursor.reads_symbols {} storable.names distinct
  refine ⟨table, same, fun rest => ?_⟩
  rw [parse_build_append storable.count, read]

theorem parse_duplicate {before later : List Symbol} {symbol : Symbol}
    (storable : Storable (before ++ symbol :: later)) (distinct : (before.map Symbol.name).Nodup)
    (taken : symbol.name ∈ before.map Symbol.name) :
    parse (build (before ++ symbol :: later)) = .error (.duplicate symbol.name) := by
  have clash := Cursor.symbols_duplicate {} storable.names distinct taken 8 []
  rw [← List.append_nil (build _), parse_build_append storable.count, clash]

theorem build_of_parse {image : Bytes} {table : SymbolTable} (read : parse image = .ok table) :
    Storable table.symbols ∧ build table.symbols = image := by
  obtain ⟨⟨opening, first⟩, openingRead, afterOpening⟩ := bind_eq_ok.mp read
  obtain ⟨length, split⟩ := Cursor.take_eq_ok openingRead
  by_cases opens : opening = magic
  · subst opens
    simp only [ne_eq, not_true_eq_false, if_false] at afterOpening
    obtain ⟨⟨count, second⟩, countRead, afterCount⟩ := bind_eq_ok.mp afterOpening
    obtain ⟨few, counted⟩ := Cursor.number_eq_ok countRead
    obtain ⟨⟨found, third⟩, symbolsRead, afterSymbols⟩ := bind_eq_ok.mp afterCount
    obtain ⟨symbols, many, same, short, rest⟩ := Cursor.symbols_eq_ok symbolsRead
    by_cases ended : third.rest = []
    · simp only [ended, not_true_eq_false, if_false] at afterSymbols
      cases afterSymbols
      obtain rfl : table.symbols = symbols := same
      refine ⟨⟨many ▸ few, short⟩, ?_⟩
      rw [ended, List.append_nil] at rest
      rw [build, List.append_assoc, ← rest, many, ← counted]
      exact split.symm
    · simp only [ended, not_false_eq_true, if_true] at afterSymbols
      cases afterSymbols
  · simp only [ne_eq, opens, not_false_eq_true, if_true] at afterOpening
    cases afterOpening

/-- An image of these symbols, no two of one name. -/
structure Holds (image : Bytes) (symbols : List Symbol) : Prop where
  storable : Storable symbols
  distinct : (symbols.map Symbol.name).Nodup
  built : build symbols = image

theorem Holds.parse {image : Bytes} {symbols : List Symbol} (holds : Holds image symbols) :
    ∃ table, table.symbols = symbols ∧ parse image = .ok table := by
  obtain ⟨storable, distinct, rfl⟩ := holds
  obtain ⟨table, same, read⟩ := parse_build storable distinct
  have whole := read []
  rw [List.append_nil] at whole
  exact ⟨table, same, whole⟩

theorem holds_of_parse {image : Bytes} {table : SymbolTable} (read : parse image = .ok table) :
    Holds image table.symbols := by
  obtain ⟨storable, built⟩ := build_of_parse read
  exact ⟨storable, table.distinct, built⟩

theorem Holds.unique {image : Bytes} {first second : List Symbol} (one : Holds image first)
    (other : Holds image second) : first = second := by
  obtain ⟨table, rfl, read⟩ := one.parse
  obtain ⟨again, rfl, readAgain⟩ := other.parse
  rw [read] at readAgain
  cases readAgain
  rfl

/-- An accepted image ends with its last symbol, so it cannot go on. -/
theorem eq_nil_of_parse_append {image extra : Bytes} {table longer : SymbolTable}
    (read : parse image = .ok table) (readLonger : parse (image ++ extra) = .ok longer) : extra = [] := by
  obtain ⟨storable, distinct, built⟩ := holds_of_parse read
  obtain ⟨_, _, reads⟩ := parse_build storable distinct
  rw [← built, reads] at readLonger
  split at readLonger
  · assumption
  · cases readLonger

/-- A list in which a name is repeated has a first symbol whose name occurred before. -/
theorem exists_first_repeated {symbols : List Symbol} (repeated : ¬ (symbols.map Symbol.name).Nodup) :
    ∃ before symbol later, symbols = before ++ symbol :: later ∧ (before.map Symbol.name).Nodup ∧
      symbol.name ∈ before.map Symbol.name := by
  induction symbols using List.reverseRecOn with
  | nil => exact absurd List.nodup_nil repeated
  | append_singleton symbols last ih =>
    by_cases distinct : (symbols.map Symbol.name).Nodup
    · refine ⟨symbols, last, [], rfl, distinct, ?_⟩
      apply Decidable.byContradiction
      intro fresh
      apply repeated
      rw [List.map_append, List.nodup_append]
      refine ⟨distinct, List.nodup_singleton _, ?_⟩
      intro name present other single same
      rw [List.map_singleton, List.mem_singleton] at single
      exact fresh (single ▸ same ▸ present)
    · obtain ⟨before, symbol, later, rfl, rest⟩ := ih distinct
      exact ⟨before, symbol, later ++ [last], by rw [List.append_assoc, List.cons_append], rest⟩

/-- The images that are accepted are those of symbols of different names, and no part of an image is
an image; a name that is repeated is told where it first is. -/
theorem images_exact :
    (∀ image, (∃ table, parse image = .ok table) ↔ ∃ symbols, Holds image symbols) ∧
    (∀ image table, parse image = .ok table →
      (∃! symbols, Holds image symbols) ∧
      ∀ symbols, Holds image symbols → ∀ name offset,
        table.find? name = some offset ↔ ⟨name, offset⟩ ∈ symbols) ∧
    (∀ symbols, Storable symbols → ¬ (symbols.map Symbol.name).Nodup →
      ∃ before symbol later, symbols = before ++ symbol :: later ∧
        (before.map Symbol.name).Nodup ∧ symbol.name ∈ before.map Symbol.name ∧
        parse (build symbols) = .error (.duplicate symbol.name) ∧
        Context.loadModule (build symbols) = .error (.invalidImage s!"duplicate symbol {symbol.name}")) ∧
    (∀ image extra table longer, parse image = .ok table → parse (image ++ extra) = .ok longer →
      extra = []) := by
  refine ⟨?accepted, ?meaning, ?repeated, fun _ _ _ _ => eq_nil_of_parse_append⟩
  case accepted =>
    intro image
    constructor
    · rintro ⟨table, read⟩
      exact ⟨table.symbols, holds_of_parse read⟩
    · rintro ⟨symbols, holds⟩
      obtain ⟨table, _, read⟩ := holds.parse
      exact ⟨table, read⟩
  case meaning =>
    intro image table read
    have holds := holds_of_parse read
    refine ⟨⟨table.symbols, holds, fun _ other => other.unique holds⟩, ?_⟩
    intro symbols other name offset
    rw [other.unique holds]
    exact SymbolTable.find?_eq_some_iff
  case repeated =>
    intro symbols storable repeated
    obtain ⟨before, symbol, later, rfl, distinct, taken⟩ := exists_first_repeated repeated
    have refused := parse_duplicate storable distinct taken
    refine ⟨before, symbol, later, rfl, distinct, taken, refused, ?_⟩
    rw [Context.loadModule, refused]
    rfl

/-- Two names are repeated, and the one that is repeated first is told. -/
theorem images_exact_repeated :
    Context.loadModule (build [⟨"&scale", 64⟩, ⟨"&add", 128⟩, ⟨"&add", 0⟩, ⟨"&scale", 8⟩]) =
      .error (.invalidImage "duplicate symbol &add") := by
  obtain ⟨before, symbol, later, split, distinct, taken, _, refused⟩ :=
    images_exact.2.2.1 [⟨"&scale", 64⟩, ⟨"&add", 128⟩, ⟨"&add", 0⟩, ⟨"&scale", 8⟩] ⟨by decide, by decide⟩
      (by decide)
  have named : symbol.name = "&add" := by
    rcases before with _ | ⟨first, _ | ⟨second, _ | ⟨third, rest⟩⟩⟩
    case nil => cases taken
    case cons.nil =>
      cases split
      exact absurd taken (by decide)
    case cons.cons.nil =>
      cases split
      rfl
    case cons.cons.cons =>
      injection split with _ split
      injection split with second split
      injection split with third _
      subst second third
      rw [List.map_cons, List.map_cons, List.map_cons] at distinct
      exact absurd List.mem_cons_self (List.nodup_cons.mp (List.nodup_cons.mp distinct).2).1
  rw [refused, named]
  rfl

end Image
end KernelLaunch
