import ColumnChecks.Table.Snapshot

/-!
The archive of a snapshot: one byte string of fixed-size records that point to data before them.
Numbers are little-endian, and a pointer counts from the field that holds it.
-/

namespace ColumnChecks.Archive

def inlineSize : Nat := 8

def recordSize : Nat := 24

def rootSize : Nat := 28

def alignment : Nat := 4

def littleEndian (width number : Nat) : Bytes :=
  (Number.bigEndian width number).reverse

def pointer (source target : Nat) : Bytes :=
  littleEndian 4 (((target : Int) - source) % 2 ^ 32).toNat

/-- The length of a text that is stored elsewhere. Its two highest bits in the first byte tell it
from the first byte of a text. -/
def lengthCode (length : Nat) : Nat :=
  length % 64 + 128 + length / 64 * 256

def textField (field data : Nat) (text : Bytes) : Bytes :=
  if text.length ≤ inlineSize then text ++ List.replicate (inlineSize - text.length) 0xFF
  else littleEndian 4 (lengthCode text.length) ++ pointer field data

def outlying (text : Bytes) : Bytes :=
  if text.length ≤ inlineSize then [] else text

def listField (field data count : Nat) : Bytes :=
  pointer field data ++ littleEndian 4 count

def columnData (column : ColumnSnapshot) : Bytes :=
  outlying (Text.utf8 column.name) ++ column.constraints

def columnRecord (record data : Nat) (column : ColumnSnapshot) : Bytes :=
  let name := Text.utf8 column.name
  textField record data name ++
    [UInt8.ofNat (ColumnType.all.idxOf column.type),
      UInt8.ofNat (ColumnRole.all.idxOf column.role), 0, 0] ++
    littleEndian 4 column.position.toNat ++
    listField (record + 16) (data + (outlying name).length) column.constraints.length

def columnRecords : (record data : Nat) → List ColumnSnapshot → Bytes
  | _, _, [] => []
  | record, data, column :: rest =>
    columnRecord record data column ++
      columnRecords (record + recordSize) (data + (columnData column).length) rest

def write (snapshot : Snapshot) : Bytes :=
  let keyspace := Text.utf8 snapshot.keyspace
  let name := Text.utf8 snapshot.name
  let names := outlying keyspace ++ outlying name
  let content := names ++ snapshot.columns.flatMap columnData
  let padding := (alignment - content.length % alignment) % alignment
  let records := content.length + padding
  let root := records + recordSize * snapshot.columns.length
  content ++ List.replicate padding 0 ++
    columnRecords records names.length snapshot.columns ++
    littleEndian 4 snapshot.version.toNat ++
    textField (root + 4) 0 keyspace ++
    textField (root + 12) (outlying keyspace).length name ++
    listField (root + 20) records snapshot.columns.length

structure Region where
  first : Nat
  last : Nat

/-- The part before an object, for what it points to, and the part behind it. -/
def Region.around? (region : Region) (start : Int) (size alignment : Nat) :
    Option (Region × Region) :=
  if region.first ≤ start && start + size ≤ region.last && start % alignment = 0 then
    some (⟨region.first, start.toNat⟩, ⟨start.toNat + size, region.last⟩)
  else none

section

variable (archive : Array UInt8)

def slice (start size : Nat) : Bytes :=
  (archive.extract start (start + size)).toList

def natAt (position width : Nat) : Nat :=
  Number.ofBigEndian (slice archive position width).reverse

def target (field position : Nat) : Int :=
  field + Number.ofSignedBigEndian (slice archive position 4).reverse

def readText (region : Region) (field : Nat) : Option (String × Region) := do
  let content := slice archive field inlineSize
  let first ← content.head?
  if first &&& 0xC0 = 0x80 then
    let code := natAt archive field 4
    let length := code % 64 + code / 256 * 64
    if length ≤ inlineSize then none
    else
      let start := target archive field (field + 4)
      let (_, behind) ← region.around? start length 1
      let text ← Text.ofUtf8? (slice archive start.toNat length)
      return (text, behind)
  else
    let text ← Text.ofUtf8? (content.takeWhile (· ≠ 0xFF))
    return (text, region)

def readColumn (region : Region) (record : Nat) : Option (ColumnSnapshot × Region) := do
  let (name, region) ← readText archive region record
  let type ← ColumnType.all[natAt archive (record + 8) 1]?
  let role ← ColumnRole.all[natAt archive (record + 9) 1]?
  let position := UInt32.ofNat (natAt archive (record + 12) 4)
  let start := target archive (record + 16) (record + 16)
  let length := natAt archive (record + 20) 4
  let (_, behind) ← region.around? start length 1
  return (⟨name, type, role, position, slice archive start.toNat length⟩, behind)

def readColumns : (region : Region) → (record count : Nat) → Option (List ColumnSnapshot)
  | _, _, 0 => some []
  | region, record, count + 1 => do
    let (column, region) ← readColumn archive region record
    let rest ← readColumns region (record + recordSize) count
    return column :: rest

def readRoot (root : Nat) : Option Snapshot := do
  let version := UInt32.ofNat (natAt archive root 4)
  let (keyspace, region) ← readText archive ⟨0, root⟩ (root + 4)
  let (name, region) ← readText archive region (root + 12)
  let start := target archive (root + 20) (root + 20)
  let count := natAt archive (root + 24) 4
  let (before, _) ← region.around? start (recordSize * count) alignment
  let columns ← readColumns archive before start.toNat count
  return ⟨version, keyspace, name, columns⟩

end

/-- The snapshot in an archive. An archive is accepted if the root is aligned at its end and if all
that is pointed to lies before the pointing record and in the order of reading. -/
def read? (archive : Bytes) : Option Snapshot :=
  let size := archive.length
  if rootSize ≤ size && size % alignment = 0 then
    readRoot archive.toArray (size - rootSize)
  else none

end ColumnChecks.Archive
