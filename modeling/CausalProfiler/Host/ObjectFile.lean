/-!
What the object reader makes of a file's bytes before it looks for debug information. The first
sixteen bytes tell the format:

* ELF of either class, Mach-O of either width and byte order, XCOFF of either width;
* COFF for the common machines, or as a big object, whose class is then checked;
* PE behind an MS-DOS stub, whose NT headers must be there and name the width;
* archives, fat Mach-O files, the dyld shared cache and import libraries, which are known but
  not read as one object;
* anything else, which is unknown.

Each format's headers must then lie in the file and agree with each other: the section table,
the symbol table and the start of its strings, and for ELF the program headers and the sections
that point at other sections. The reader refuses a file with the message of the first check it
fails. A Mach-O load command that does not fit only ends the reading of commands.
-/
namespace CausalProfiler.Host

/-- The byte order of an object's fields. -/
inductive ByteOrder where
  | little
  | big
deriving Repr, DecidableEq

/-- The value of `width` bytes at `offset` in the given order; bytes past the end count as
zero. -/
def wordAt (data : Array Nat) (order : ByteOrder) (offset width : Nat) : Nat :=
  let bs := (List.range width).map fun k => data.getD (offset + k) 0
  match order with
  | .little => bs.foldr (fun b n => b + 256 * n) 0
  | .big => bs.foldl (fun n b => 256 * n + b) 0

/-- Whether `size` bytes from `offset` lie in the data. -/
def lies (data : Array Nat) (offset size : Nat) : Bool := offset + size ≤ data.size

/-- Fails with `reason` unless `ok`. -/
def require (ok : Bool) (reason : String) : Except String Unit :=
  if ok then pure () else throw reason

/-- Sums of 64-bit fields must stay below this, two to the 64th, or the reader takes them to
overflow. -/
def wordLimit : Nat := 18446744073709551616

/-- The formats the first bytes of a file announce. -/
inductive ObjectFormat where
  | elf (wide : Bool)
  | machO (wide : Bool) (order : ByteOrder)
  | pe (wide : Bool)
  | coff
  | bigCoff
  | xcoff (wide : Bool)
  /-- A format known but not read as one object: an archive, a fat Mach-O file, the dyld
  shared cache, or an import library. -/
  | unsupported
deriving Repr, DecidableEq

/-- The class of a big COFF object. -/
def bigObjectClass : List Nat :=
  [0xC7, 0xA1, 0xBA, 0xD1, 0xEE, 0xBA, 0xA9, 0x4B, 0xAF, 0x20, 0xFA, 0xF6, 0x6A, 0xA4, 0xDC, 0xB8]

/-- The first two bytes of COFF objects for ARM, ARM64, ARM64EC, x86 and x86-64. -/
def coffMachines : List (List Nat) :=
  [[0xC4, 0x01], [0x64, 0xAA], [0x41, 0xA6], [0x4C, 0x01], [0x64, 0x86]]

/-- The bytes of some ASCII text. -/
def asciiBytes (s : String) : List Nat := s.toList.map Char.toNat

/-- The width of a PE file behind an MS-DOS stub: the stub's header must be whole, and the NT
headers it points to must be there, signed and name a known optional header. -/
def peWidth (data : Array Nat) : Except String Bool :=
  let nt := wordAt data .little 60 4
  let magic := wordAt data .little (nt + 24) 2
  if !lies data 0 64 || !lies data nt 120 || (List.range 4).map (fun k => data.getD (nt + k) 0) ≠ [0x50, 0x45, 0, 0]
  then throw "Unknown MS-DOS file"
  else if magic = 0x10B then pure false
  else if magic = 0x20B then pure true
  else throw "Unknown MS-DOS file"

/-- The format of a file from its first sixteen bytes. -/
def detectFormat (data : Array Nat) : Except String ObjectFormat :=
  let first := fun n => (List.range n).map fun k => data.getD k 0
  if data.size < 16 then throw "Could not read file magic"
  else if first 8 = asciiBytes "!<arch>\n" || first 8 = asciiBytes "dyld_v1 " then pure .unsupported
  else if first 5 = [0x7F, 0x45, 0x4C, 0x46, 1] then pure (.elf false)
  else if first 5 = [0x7F, 0x45, 0x4C, 0x46, 2] then pure (.elf true)
  else if first 4 = [0xFE, 0xED, 0xFA, 0xCE] then pure (.machO false .big)
  else if first 4 = [0xCE, 0xFA, 0xED, 0xFE] then pure (.machO false .little)
  else if first 4 = [0xFE, 0xED, 0xFA, 0xCF] then pure (.machO true .big)
  else if first 4 = [0xCF, 0xFA, 0xED, 0xFE] then pure (.machO true .little)
  else if first 4 = [0xCA, 0xFE, 0xBA, 0xBE] || first 4 = [0xCA, 0xFE, 0xBA, 0xBF] then pure .unsupported
  else if first 2 = [0x4D, 0x5A] then ObjectFormat.pe <$> peWidth data
  else if coffMachines.contains (first 2) then pure .coff
  else if first 6 = [0, 0, 0xFF, 0xFF, 0, 0] then pure .unsupported
  else if first 6 = [0, 0, 0xFF, 0xFF, 2, 0] then
    if lies data 0 32 && ((List.range 16).map fun k => data.getD (12 + k) 0) = bigObjectClass
    then pure .bigCoff
    else throw "Unknown anon object file"
  else if first 2 = [0x01, 0xDF] then pure (.xcoff false)
  else if first 2 = [0x01, 0xF7] then pure (.xcoff true)
  else throw "Unknown file magic"

/-! ## COFF, PE and XCOFF -/

/-- The COFF symbol table of `count` entries of `entry` bytes at `start`, followed by the length
of its strings; a table at offset zero is absent. -/
def coffSymbols (data : Array Nat) (start count entry : Nat) (format : String) :
    Except String Unit :=
  if start = 0 then pure ()
  else do
    require (lies data start (count * entry)) ("Invalid " ++ format ++ " symbol table offset or size")
    require (lies data (start + count * entry) 4) ("Missing " ++ format ++ " string table")

/-- A COFF object: its file header, the section headers after the optional header, and its
symbols. -/
def checkCoff (data : Array Nat) : Except String Unit := do
  let word := wordAt data .little
  require (lies data 0 20) "Invalid COFF file header size or alignment"
  require (lies data (20 + word 16 2) (word 2 2 * 40)) "Invalid COFF/PE section headers"
  coffSymbols data (word 8 4) (word 12 4) 18 "COFF"

/-- A big COFF object: its header, which holds the section count, then the sections and the
symbols of twenty bytes each. -/
def checkBigCoff (data : Array Nat) : Except String Unit := do
  let word := wordAt data .little
  require (lies data 0 56) "Invalid COFF bigobj file header size or alignment"
  require (lies data 56 (word 44 4 * 40)) "Invalid COFF/PE section headers"
  coffSymbols data (word 48 4) (word 52 4) 20 "COFF"

/-- A PE file: the NT headers with their fixed optional header, the data directories that fill
the rest of the optional header, and the section headers. Its symbols are not checked, since
images need not have them. -/
def checkPe (data : Array Nat) (wide : Bool) : Except String Unit := do
  let word := wordAt data .little
  let nt := word 60 4
  let headers := if wide then 136 else 120
  let fixed := headers - 24
  require (lies data nt headers) "Invalid PE headers offset or size"
  let optional := word (nt + 20) 2
  require (fixed ≤ optional) "PE optional header size is too small"
  require (lies data (nt + headers) (optional - fixed)) "Invalid PE optional header size"
  require (word (nt + headers - 4) 4 * 8 ≤ optional - fixed) "Invalid PE number of RVA and sizes"
  require (lies data (nt + 24 + optional) (word (nt + 6) 2 * 40)) "Invalid COFF/PE section headers"

/-- An XCOFF file: its header, the auxiliary header an executable has when it is whole, the
section headers, and the symbols of eighteen bytes each. -/
def checkXcoff (data : Array Nat) (wide : Bool) : Except String Unit := do
  let word := wordAt data .big
  let header := if wide then 24 else 20
  let auxiliary := if wide then 120 else 72
  require (lies data 0 header) "Invalid XCOFF header size or alignment"
  let optional := word 16 2
  let executable := word 18 2 % 4 / 2 = 1
  if executable && optional = auxiliary then
    require (lies data header auxiliary) "Invalid XCOFF auxiliary header size"
  let sections := word 2 2
  if sections ≠ 0 then
    require (lies data (header + optional) (sections * if wide then 72 else 40))
      "Invalid XCOFF section headers"
  coffSymbols data (if wide then word 8 8 else word 8 4) (if wide then word 20 4 else word 12 4) 18 "XCOFF"

/-! ## Mach-O -/

/-- One load command of `size` bytes at `pos`: a segment of the file's width must hold its
section headers, and a symbol table command must point to symbols in the file. -/
def machCommand (data : Array Nat) (order : ByteOrder) (wide : Bool) (pos cmd size : Nat) :
    Except String Unit := do
  let word := wordAt data order
  let segment := if wide then 72 else 56
  if cmd = (if wide then 0x19 else 1) then
    require (segment ≤ size) "Invalid Mach-O command size"
    require (word (pos + segment - 8) 4 * (if wide then 80 else 68) ≤ size - segment)
      "Invalid Mach-O number of sections"
  else if cmd = 2 then
    require (24 ≤ size) "Invalid Mach-O command size"
    require (lies data (word (pos + 8) 4) (word (pos + 12) 4 * if wide then 16 else 12))
      "Invalid Mach-O symbol table offset or size"

/-- Reads `left` load commands from `pos`, with `room` bytes of the command table left. A
command whose header or size does not fit ends the reading without an error. -/
def machCommands (data : Array Nat) (order : ByteOrder) (wide : Bool) :
    (fuel pos room left : Nat) → Except String Unit
  | 0, _, _, _ => pure ()
  | fuel + 1, pos, room, left =>
    let size := wordAt data order (pos + 4) 4
    if left = 0 || room < 8 || size < 8 || room < size then pure ()
    else do
      machCommand data order wide pos (wordAt data order pos 4) size
      machCommands data order wide fuel (pos + size) (room - size) (left - 1)

/-- A Mach-O file: its header, then its load commands when their table lies in the file. -/
def checkMachO (data : Array Nat) (wide : Bool) (order : ByteOrder) : Except String Unit := do
  let header := if wide then 32 else 28
  require (lies data 0 header) "Invalid Mach-O header size or alignment"
  let room := wordAt data order 20 4
  if lies data header room then
    machCommands data order wide (room / 8 + 1) header room (wordAt data order 16 4)

/-! ## ELF -/

/-- The fields of an ELF section header the reader checks. -/
structure ElfSection where
  kind : Nat
  offset : Nat
  size : Nat
  link : Nat
  info : Nat
deriving Repr, DecidableEq

/-- Section kinds: symbols, strings, relocations with and without addends, no bytes in the
file, dynamic symbols, and the extended section indexes of symbols. -/
def symbolSection : Nat := 2
def stringSection : Nat := 3
def addendRelocations : Nat := 4
def emptySection : Nat := 8
def plainRelocations : Nat := 9
def dynamicSymbols : Nat := 11
def symbolIndexSection : Nat := 18

/-- The layout of an ELF file of one class. -/
structure ElfLayout where
  wide : Bool
  order : ByteOrder

namespace ElfLayout

def word (l : ElfLayout) (data : Array Nat) (offset width : Nat) : Nat := wordAt data l.order offset width

/-- An address-sized field: eight bytes wide, else four. -/
def address (l : ElfLayout) (data : Array Nat) (wideAt narrowAt : Nat) : Nat :=
  if l.wide then l.word data wideAt 8 else l.word data narrowAt 4

/-- A two-byte field of the file header, at its offset in a 64-bit header. -/
def half (l : ElfLayout) (data : Array Nat) (wideAt : Nat) : Nat :=
  l.word data (if l.wide then wideAt else wideAt - 12) 2

def headerSize (l : ElfLayout) : Nat := if l.wide then 64 else 52
def programHeaderSize (l : ElfLayout) : Nat := if l.wide then 56 else 32
def sectionHeaderSize (l : ElfLayout) : Nat := if l.wide then 64 else 40

def sectionAt (l : ElfLayout) (data : Array Nat) (start : Nat) : ElfSection :=
  { kind := l.word data (start + 4) 4,
    offset := l.address data (start + 24) (start + 16),
    size := l.address data (start + 32) (start + 20),
    link := l.word data (start + if l.wide then 40 else 24) 4,
    info := l.word data (start + if l.wide then 44 else 28) 4 }

/-- The first section header, which holds counts too large for the file header; none when the
file has no section headers. -/
def firstSection (l : ElfLayout) (data : Array Nat) : Except String (Option ElfSection) := do
  let start := l.address data 40 32
  if start = 0 then pure none
  else
    require (l.half data 58 = l.sectionHeaderSize) "Invalid ELF section header entry size"
    require (lies data start l.sectionHeaderSize) "Invalid ELF section header offset or size"
    pure (some (l.sectionAt data start))

/-- The program headers, which may be absent, must have the expected size and lie in the
file. -/
def checkProgramHeaders (l : ElfLayout) (data : Array Nat) : Except String Unit := do
  let start := l.address data 32 28
  if start ≠ 0 then
    let count ← if l.half data 56 < 0xFFFF then pure (l.half data 56) else
      match ← l.firstSection data with
      | some s => pure s.info
      | none => throw "Missing ELF section headers for e_phnum overflow"
    if count ≠ 0 then
      require (l.half data 54 = l.programHeaderSize) "Invalid ELF program header entry size"
      require (lies data start (count * l.programHeaderSize)) "Invalid ELF program header size or alignment"

/-- The section headers, which may be absent, must have the expected size and lie in the
file. -/
def sections (l : ElfLayout) (data : Array Nat) : Except String (List ElfSection) := do
  let start := l.address data 40 32
  if start = 0 then pure []
  else
    let count ← if l.half data 60 > 0 then pure (l.half data 60) else
      match ← l.firstSection data with
      | some s => pure s.size
      | none => pure 0
    if count = 0 then pure []
    else
      require (l.half data 58 = l.sectionHeaderSize) "Invalid ELF section header entry size"
      require (lies data start (count * l.sectionHeaderSize)) "Invalid ELF section header offset/size/alignment"
      pure ((List.range count).map fun k => l.sectionAt data (start + k * l.sectionHeaderSize))

/-- The section of section names must be named and exist, and its end must not overflow. -/
def checkSectionNames (l : ElfLayout) (data : Array Nat) (table : List ElfSection) :
    Except String Unit := do
  if !table.isEmpty then
    let index ← if l.half data 62 ≠ 0xFFFF then pure (l.half data 62) else
      match ← l.firstSection data with
      | some s => pure s.link
      | none => throw "Missing ELF section headers for e_shstrndx overflow"
    require (index ≠ 0) "Missing ELF e_shstrndx"
    match table[index]? with
    | none => throw "Invalid ELF e_shstrndx"
    | some s => require (s.kind = emptySection || s.offset + s.size < wordLimit) "Invalid ELF shstrtab size"

end ElfLayout

/-- Whether a section's bytes lie in the file; a section without bytes has none to lie. -/
def ElfSection.lies (s : ElfSection) (data : Array Nat) : Bool :=
  s.kind = emptySection || Host.lies data s.offset s.size

/-- The first symbol table of a kind, with its strings and its extended indexes; gives the
table's index, or zero when there is none. -/
def checkSymbols (data : Array Nat) (table : List ElfSection) (kind : Nat) : Except String Nat :=
  match (table.zipIdx.find? fun (s, _) => s.kind = kind) with
  | none => pure 0
  | some (s, index) => do
    require (s.lies data) "Invalid ELF symbol table data"
    match table[s.link]? with
    | none => throw "Invalid ELF section index"
    | some strings =>
      require (strings.kind = stringSection) "Invalid ELF string section type"
      require (strings.offset + strings.size < wordLimit) "Invalid ELF string section offset or size"
    require (table.all fun t => t.kind ≠ symbolIndexSection || t.link ≠ index || t.lies data)
      "Invalid ELF symtab_shndx data"
    pure index

/-- Every relocation section for the symbol table must name a section it applies to, unless it
applies to none. -/
def checkRelocations (table : List ElfSection) (symbols : Nat) : Except String Unit :=
  require (table.all fun s =>
      (s.kind ≠ plainRelocations && s.kind ≠ addendRelocations) || s.link ≠ symbols ||
        s.info = 0 || s.info < table.length)
    "Invalid ELF sh_info for relocation section"

/-- An ELF file: its header, which must name a byte order and the current version, its program
headers, its sections, its symbol tables and its relocations. -/
def checkElf (data : Array Nat) (wide : Bool) : Except String Unit := do
  let l : ElfLayout := { wide, order := if data.getD 5 0 = 2 then .big else .little }
  require (lies data 0 l.headerSize) "Invalid ELF header size or alignment"
  require ((data.getD 5 0 = 1 || data.getD 5 0 = 2) && data.getD 6 0 = 1) "Unsupported ELF header"
  l.checkProgramHeaders data
  let table ← l.sections data
  l.checkSectionNames data table
  let symbols ← checkSymbols data table symbolSection
  let _ ← checkSymbols data table dynamicSymbols
  checkRelocations table symbols

/-- The reader's verdict on a file's bytes: nothing when it reads them as an object, else the
message of the first check that fails. -/
def readObject (data : Array Nat) : Except String Unit := do
  match ← detectFormat data with
  | .elf wide => checkElf data wide
  | .machO wide order => checkMachO data wide order
  | .pe wide => checkPe data wide
  | .coff => checkCoff data
  | .bigCoff => checkBigCoff data
  | .xcoff wide => checkXcoff data wide
  | .unsupported => throw "Unsupported file format"

end CausalProfiler.Host
