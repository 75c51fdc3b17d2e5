import CausalProfiler.Host.Probe
/-!
Files a process maps to be read by the loader: text, which is no object file, or a copy of a
built probe executable, optionally with bytes of one of its sections overwritten. A copy of the
probe keeps its line rows unless the patch damages its debug information. The first twelve
bytes of the debug information are a compilation unit's header (length, version 5, unit type,
address size 8 and the abbreviation offset); a header that cannot be read is reported by the
loader, while damage past the header, to the abbreviations or to the line program only loses
the rows.
-/
namespace CausalProfiler.Host

/-- Bytes to overwrite in a section. -/
structure Patch where
  sectionName : String
  offset : Nat
  bytes : List Nat
deriving Repr, DecidableEq

/-- Why a file cannot be prepared. -/
inductive ArtifactError where
  | badByte
  | missing
  | noSection
  | outOfRange
deriving Repr, DecidableEq

/-- The sections of a probe executable and their sizes in the file. -/
def probeSections : List (String × Nat) :=
  [(".interp", 28), (".note.gnu.property", 48), (".note.gnu.build-id", 36), (".note.ABI-tag", 32),
   (".gnu.hash", 36), (".dynsym", 600), (".dynstr", 300), (".gnu.version", 50),
   (".gnu.version_r", 80), (".rela.dyn", 48), (".rela.plt", 600), (".init", 27), (".plt", 416),
   (".text", 9000), (".fini", 13), (".rodata", 400), (".eh_frame_hdr", 140), (".eh_frame", 500),
   (".init_array", 8), (".fini_array", 8), (".dynamic", 464), (".got", 16), (".got.plt", 224),
   (".data", 16), (".comment", 43), (".debug_aranges", 48), (".debug_info", 3000),
   (".debug_abbrev", 600), (".debug_line", 1800), (".debug_str", 900), (".debug_line_str", 600),
   (".symtab", 2000), (".strtab", 1000), (".shstrtab", 300)]

/-- The built probe an artifact name copies: whether it is the linked build. -/
def Installation.artifact? (i : Installation) (name : String) : Option Bool :=
  if name = baseName i.injected.1 then some false
  else if name = baseName i.linked.1 then some true
  else none

/-- The little-endian value of some bytes. -/
def littleEndian (bs : List Nat) : Nat := bs.foldr (fun b n => b + 256 * n) 0

/-- The unit header of the probe's debug information. -/
def debugInfoHeader : List Nat :=
  let length := 3000 - 4
  [length % 256, length / 256 % 256, 0, 0, 5, 0, 1, 8, 0, 0, 0, 0]

/-- Overwrites bytes of a list from an offset; bytes past its end are dropped. -/
def overwrite (xs : List Nat) (offset : Nat) (bytes : List Nat) : List Nat :=
  xs.zipIdx.map fun (x, i) =>
    if offset ≤ i ∧ i < offset + bytes.length then bytes.getD (i - offset) x else x

/-- What reading debug information with a damaged unit header gives: an error, `none` for
lost rows, or `some ()` when the header still reads as it did. -/
def readHeader (size : Nat) (h : List Nat) : Except String (Option Unit) :=
  let eof := "Hit the end of input before it was expected"
  let length := littleEndian (h.take 4)
  if length = 0xffffffff then
    if size - 12 < littleEndian ((h.drop 4).take 8) then .error eof else .ok none
  else if 0xfffffff0 ≤ length then .error "Found an unknown reserved length value"
  else if size - 4 < length ∨ length < 8 then .error eof
  else
    let version := littleEndian ((h.drop 4).take 2)
    if !([2, 3, 4, 5].contains version) then .error "Found an unknown DWARF version"
    else if version ≠ 5 then .ok none
    else if !([1, 2, 3, 4, 5, 6].contains (h.getD 6 0)) then .error "Found an unknown \x60DW_UT_*\x60 type"
    else if !([1, 2, 4, 8].contains (h.getD 7 0)) then .error "The specified address size is not supported"
    else if h = debugInfoHeader then .ok (some ())
    else .ok none

/-- The image of a copy of a probe with an optional patch. -/
def Installation.probeImage (i : Installation) (linked : Bool) (patch : Option Patch) : Image :=
  let rows := (i.probe linked).image
  match patch with
  | none => rows
  | some p =>
    if p.sectionName = ".debug_info" then
      let header := overwrite debugInfoHeader p.offset p.bytes
      match readHeader 3000 header with
      | .error e => .corrupt e
      | .ok (some ()) => if p.offset + p.bytes.length ≤ 12 then rows else .rows []
      | .ok none => .rows []
    else if p.sectionName = ".debug_line" ∨ p.sectionName = ".debug_abbrev" then .rows []
    else rows

/-- Checks a patch against a probe's sections. -/
def checkPatch (p : Patch) : Except ArtifactError Unit :=
  if p.bytes.any (255 < ·) then .error .badByte
  else match probeSections.lookup p.sectionName with
    | none => .error .noSection
    | some size => if size < p.offset + p.bytes.length then .error .outOfRange else .ok ()

end CausalProfiler.Host
