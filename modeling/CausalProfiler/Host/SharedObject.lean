import CausalProfiler.Host.Files
/-!
How the dynamic loader judges an object named for preloading. A name with a `/` is a path from
the working directory; a name without one is looked up among the system's libraries. A path
that leads nowhere cannot be opened, a directory cannot be read, and a file shorter than an ELF
header is too short. Otherwise the identification bytes of the header are checked in order —
the magic number, the class, the byte order, the version, the OS ABI and its version, and the
padding — then the file version, the machine, the type and the size of program headers. Each
check has its own message; a file of the other class is named as such. Then the program headers
must lie in the file, and so must the first note segment the loader looks at; a GNU ABI note
there must name Linux. Last, the loadable segments must map whole pages, there must be one, the
object must not be an executable, and it must have a dynamic section.
-/
namespace CausalProfiler.Host

/-- Why the loader refuses an object. -/
inductive LoadRefusal where
  | cannotOpen
  | cannotRead
  | tooShort
  | badHeader
  | otherClass
  | byteOrder
  | identVersion
  | osAbi
  | abiVersion
  | padding
  | fileVersion
  | notLoadable
  | headerSize
  | noDynamicSection
  | noLoadableSegments
  | loadsExecutable
  | loadNotAligned
deriving Repr, DecidableEq

def LoadRefusal.message : LoadRefusal → String
  | .cannotOpen => "cannot open shared object file"
  | .cannotRead => "cannot read file data"
  | .tooShort => "file too short"
  | .badHeader => "invalid ELF header"
  | .otherClass => "wrong ELF class: ELFCLASS32"
  | .byteOrder => "ELF file data encoding not little-endian"
  | .identVersion => "ELF file version ident does not match current one"
  | .osAbi => "ELF file OS ABI invalid"
  | .abiVersion => "ELF file ABI version invalid"
  | .padding => "nonzero padding in e_ident"
  | .fileVersion => "ELF file version does not match current one"
  | .notLoadable => "only ET_DYN and ET_EXEC can be loaded"
  | .headerSize => "ELF file's phentsize not the expected size"
  | .noDynamicSection => "object file has no dynamic section"
  | .noLoadableSegments => "object file has no loadable segments"
  | .loadsExecutable => "cannot dynamically load executable"
  | .loadNotAligned => "ELF load command address/offset not page-aligned"

/-- The first bytes of every ELF file. -/
def elfMagic : List Nat := [0x7F, 0x45, 0x4C, 0x46]

/-- The size of the header of a 64-bit ELF file. -/
def elfHeaderSize : Nat := 64

/-- The ABI versions the system's C library accepts for the GNU OS ABI are those below this. -/
def abiVersionLimit : Nat := 4

/-- The little-endian value of some bytes. -/
def littleEndianValue (bs : List Nat) : Nat := bs.foldr (fun b n => b + 256 * n) 0

/-- The value of `width` little-endian bytes at `offset`; bytes past the end count as zero. -/
def fieldAt (bytes : List Nat) (offset width : Nat) : Nat :=
  littleEndianValue ((bytes.drop offset).take width)

/-- The size of a program header of a 64-bit ELF file. -/
def programHeaderSize : Nat := 56

/-- The size of a page, which loadable segments are mapped in. -/
def pageSize : Nat := 4096

/-- A program header: the kind of segment, where its bytes lie in the file, and where it goes. -/
structure ProgramHeader where
  kind : Nat
  offset : Nat
  address : Nat
  fileSize : Nat
  align : Nat
deriving Repr, DecidableEq

def ProgramHeader.read (bytes : List Nat) (start : Nat) : ProgramHeader :=
  { kind := fieldAt bytes start 4, offset := fieldAt bytes (start + 8) 8,
    address := fieldAt bytes (start + 16) 8, fileSize := fieldAt bytes (start + 32) 8,
    align := fieldAt bytes (start + 48) 8 }

/-- Segment kinds the loader looks at. -/
def loadSegment : Nat := 1
def dynamicSegment : Nat := 2
def noteSegment : Nat := 4

/-- The object type of a shared object. -/
def sharedObjectType : Nat := 3

/-- The header of the GNU ABI note: a name of four bytes, a description of sixteen, type 1,
and the name "GNU". -/
def abiNoteHeader : List Nat := [4, 0, 0, 0, 16, 0, 0, 0, 1, 0, 0, 0, 0x47, 0x4E, 0x55, 0]

/-- `n` rounded up to a multiple of `a`. -/
def alignUp (n a : Nat) : Nat := (n + a - 1) / a * a

/-- The OS word of the ABI note among the notes of `size` bytes from `start`, when the note is
there. A note that would leave fewer than 32 bytes after it ends the scan. -/
def abiNoteOs (bytes : List Nat) (start size align : Nat) : (fuel : Nat) → Option Nat
  | 0 => none
  | fuel + 1 =>
    if (bytes.drop start).take 16 = abiNoteHeader then some (fieldAt bytes (start + 16) 4)
    else
      let noteSize := alignUp (alignUp (12 + fieldAt bytes start 4) align +
        fieldAt bytes (start + 4) 4) align
      if size - 32 < noteSize then none
      else abiNoteOs bytes (start + noteSize) (size - noteSize) align fuel

/-- The verdict of the note segments: the first that may hold the ABI note must lie in the
file, and the note, when it is there, must name Linux; without it the next such segment is
looked at. -/
def noteRefusal (bytes : List Nat) : List ProgramHeader → Option LoadRefusal
  | [] => none
  | h :: rest =>
    if h.kind = noteSegment ∧ 32 ≤ h.fileSize ∧ (h.align = 4 ∨ h.align = 8) then
      if bytes.length < h.offset + h.fileSize then some .cannotRead
      else match abiNoteOs bytes h.offset h.fileSize h.align (h.fileSize + 1) with
        | some os => if os = 0 then none else some .cannotOpen
        | none => noteRefusal bytes rest
    else noteRefusal bytes rest

/-- The verdict of the segments of an object of type `type`. The address of the dynamic
section is that of the last dynamic segment with bytes; one without bytes marks a file of debug
information. -/
def segmentRefusal (type : Nat) (headers : List ProgramHeader) : Option LoadRefusal :=
  let loads := headers.filter (·.kind = loadSegment)
  let dynamics := headers.filter (·.kind = dynamicSegment)
  let dynamicAddress : Nat := ((dynamics.filter (·.fileSize ≠ 0)).getLast?.map (·.address)).getD 0
  if loads.any fun h => h.address % pageSize ≠ h.offset % pageSize then some .loadNotAligned
  else if loads.isEmpty then some .noLoadableSegments
  else if type ≠ sharedObjectType then some .loadsExecutable
  else if dynamicAddress = 0 ∨ dynamics.any (·.fileSize = 0) then some .noDynamicSection
  else none

/-- The loader's verdict on a file's bytes: the first check it fails, or none when it loads. -/
def judgeHeader (bytes : List Nat) : Option LoadRefusal :=
  let byte := fun i => bytes.getD i 0
  let field := fieldAt bytes
  if bytes.length < elfHeaderSize then some .tooShort
  else if bytes.take 4 ≠ elfMagic then some .badHeader
  else if byte 4 ≠ 2 then some .otherClass
  else if byte 5 ≠ 1 then some .byteOrder
  else if byte 6 ≠ 1 then some .identVersion
  else if byte 7 ≠ 0 ∧ byte 7 ≠ 3 then some .osAbi
  else if byte 8 ≠ 0 ∧ ¬ (byte 7 = 3 ∧ byte 8 < abiVersionLimit) then some .abiVersion
  else if ((bytes.drop 9).take 7).any (· ≠ 0) then some .padding
  else if field 20 4 ≠ 1 then some .fileVersion
  else if field 18 2 ≠ 62 then some .cannotOpen
  else if field 16 2 ≠ 2 ∧ field 16 2 ≠ 3 then some .notLoadable
  else if field 54 2 ≠ programHeaderSize then some .headerSize
  else
    let start := field 32 8
    let count := field 56 2
    if 0 < count ∧ bytes.length < start + count * programHeaderSize then some .cannotRead
    else
      let headers := (List.range count).map fun k =>
        ProgramHeader.read bytes (start + k * programHeaderSize)
      match noteRefusal bytes headers with
      | some r => some r
      | none => segmentRefusal (field 16 2) headers

/-- The shared objects of the system that a name without `/` finds. -/
def systemObjects : List String :=
  ["libc.so.6", "libm.so.6", "libgcc_s.so.1", "libpthread.so.0", "libdl.so.2", "librt.so.1"]

/-- Why the loader refuses to preload a name, or none when it loads it. -/
def preloadRefusal (fs : FileSystem) (name : String) : Option LoadRefusal :=
  if !name.contains '/' then
    if systemObjects.contains name then none else some .cannotOpen
  else
    match fs.readFile name with
    | .error .isDirectory => some .cannotRead
    | .error _ => some .cannotOpen
    | .ok (.text t) => judgeHeader (t.toUTF8.toList.map (·.toNat))
    | .ok .binary => none

end CausalProfiler.Host
