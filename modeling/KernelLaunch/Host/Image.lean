import KernelLaunch.Driver.Error
import KernelLaunch.Text.Utf8

/-! The native images of the reference device: a magic number, a count, and for each symbol the
length of its name, the name and the offset of its code. Reading accepts what writing produces and
nothing else, so long as the names differ. -/

namespace KernelLaunch

structure Symbol where
  name : String
  offset : UInt64
  deriving DecidableEq

/-- The symbols of an image in its order, no two of one name. -/
structure SymbolTable where
  symbols : List Symbol := []
  distinct : (symbols.map Symbol.name).Nodup := by exact List.nodup_nil

namespace SymbolTable

/-- The table with one more symbol, unless its name is taken. -/
def insert? (table : SymbolTable) (symbol : Symbol) : Option SymbolTable :=
  if fresh : symbol.name ∈ table.symbols.map Symbol.name then none
  else
    some
      { symbols := table.symbols ++ [symbol]
        distinct := by
          rw [List.map_append, List.nodup_append]
          refine ⟨table.distinct, List.nodup_cons.mpr ⟨List.not_mem_nil, List.nodup_nil⟩, ?_⟩
          intro name present other last same
          rw [List.map_singleton, List.mem_singleton] at last
          exact fresh (last ▸ same ▸ present) }

def find? (table : SymbolTable) (name : String) : Option UInt64 :=
  (table.symbols.find? fun symbol => symbol.name == name).map Symbol.offset

def hasCodeAt (table : SymbolTable) (offset : UInt64) : Bool :=
  table.symbols.any fun symbol => symbol.offset == offset

def sorted (table : SymbolTable) : List Symbol :=
  table.symbols.mergeSort fun left right => left.name ≤ right.name

end SymbolTable

inductive ImageError where
  | truncated (offset : Nat)
  | badMagic
  | symbolName (fault : Utf8Error)
  | duplicate (name : String)
  | trailing (count : Nat)
  deriving DecidableEq

def ImageError.message : ImageError → String
  | .truncated offset => s!"truncated at byte {offset}"
  | .badMagic => "bad magic"
  | .symbolName fault => s!"symbol name: {fault.message}"
  | .duplicate name => s!"duplicate symbol {name}"
  | .trailing count => s!"{count} trailing bytes"

namespace Image

/-- The bytes that open every image. -/
def magic : Bytes := [0x48, 0x53, 0x41, 0x49]

def encodeSymbol (symbol : Symbol) : Bytes :=
  let name := Bytes.ofText symbol.name
  Bytes.littleEndian 4 name.length ++ name ++ Bytes.littleEndian 8 symbol.offset.toNat

def build (symbols : List Symbol) : Bytes :=
  magic ++ Bytes.littleEndian 4 symbols.length ++ symbols.flatMap encodeSymbol

/-- The bytes of an image still to be read, and the offset of the first of them. -/
structure Cursor where
  offset : Nat
  rest : Bytes

namespace Cursor

def take (cursor : Cursor) (count : Nat) : Except ImageError (Bytes × Cursor) :=
  if count ≤ cursor.rest.length then
    .ok (cursor.rest.take count, ⟨cursor.offset + count, cursor.rest.drop count⟩)
  else .error (.truncated cursor.offset)

def number (cursor : Cursor) (width : Nat) : Except ImageError (Nat × Cursor) :=
  (cursor.take width).map fun (bytes, after) => (bytes.toNat, after)

def symbol (cursor : Cursor) : Except ImageError (Symbol × Cursor) := do
  let (length, cursor) ← cursor.number 4
  let (bytes, cursor) ← cursor.take length
  let name ← (Utf8.decode bytes).mapError .symbolName
  let (offset, cursor) ← cursor.number 8
  return (⟨name, UInt64.ofNat offset⟩, cursor)

def symbols : (count : Nat) → SymbolTable → Cursor → Except ImageError (SymbolTable × Cursor)
  | 0, table, cursor => .ok (table, cursor)
  | count + 1, table, cursor =>
    match cursor.symbol with
    | .error fault => .error fault
    | .ok (symbol, after) =>
      match table.insert? symbol with
      | none => .error (.duplicate symbol.name)
      | some larger => symbols count larger after

end Cursor

/-- Reads an image, which must end with its last symbol. -/
def parse (image : Bytes) : Except ImageError SymbolTable := do
  let (opening, cursor) ← Cursor.take ⟨0, image⟩ magic.length
  if opening ≠ magic then throw .badMagic
  let (count, cursor) ← cursor.number 4
  let (table, cursor) ← cursor.symbols count {}
  if cursor.rest ≠ [] then throw (.trailing cursor.rest.length)
  return table

end Image
end KernelLaunch
