import CausalProfiler.Report.Csv
import CausalProfiler.Proofs.LogText
/-!
# Reading the CSV report back

A standard CSV reader (`Csv.read`) ends a record at a return or a newline outside quotes, splits
fields at commas outside quotes, and reads a doubled quote inside a quoted field as one quote.
`csvField` quotes a value holding a comma, a quote or a newline, so a value with a return and
none of those is written bare, and the reader ends the record at its return. The report's
numbers are written in digits, signs, points and the words of the values without digits, which
need no quotes.

* `Csv.foldl_step_csvField`: a readable value (`Csv.Readable`: no return, or quoted) reads back
  from its field;
* `Csv.foldl_step_recordChars`, `Csv.foldl_step_flatMap`: a record written field by field reads
  back as that record, and records written one after another read back in order;
* `Csv.records_prefix_foldl`: reading on never takes back a record read;
* `Csv.display_plain`: a number's text needs no quotes;
* `csv_reads_back`: when the names of a report's lines and points are readable, reading its CSV
  gives the header and then one six-field record per line, point and measurement, in order,
  starting with the line's and the point's names;
* `return_in_line_splits_record`: a line name with a return and nothing `csvField` quotes ends
  the first record at the return.
-/
namespace CausalProfiler

namespace Csv

/-- Where a reader stands: at the start of a field, inside an unquoted field, inside a quoted
field, or just after a quote inside a quoted field, which closes the quotes unless another
quote follows. -/
inductive Mode where
  | fieldStart
  | unquoted
  | quoted
  | quoteSeen
deriving DecidableEq

/-- A reader part way through a text: the records read, the fields read of the current record,
the characters of the current field, and where it stands. -/
structure Reader where
  records : List (List String)
  fields : List String
  field : List Char
  mode : Mode
deriving DecidableEq

namespace Reader

/-- A reader between records. -/
def between (records : List (List String)) : Reader := ⟨records, [], [], .fieldStart⟩

/-- Whether a record has begun: a field, a character or a quote was read since the last record
ended. -/
def started (r : Reader) : Bool := !r.fields.isEmpty || !r.field.isEmpty || r.mode != .fieldStart

/-- Ends the current field. -/
def endField (r : Reader) : Reader := ⟨r.records, r.fields ++ [String.ofList r.field], [], .fieldStart⟩

/-- Ends the current field and the record. -/
def endRecord (r : Reader) : Reader := between (r.records ++ [r.fields ++ [String.ofList r.field]])

/-- A character outside quotes: a comma ends the field, a return or a newline ends the record
(between records it is skipped, so a return and newline pair or a blank line makes no record),
and any other character belongs to an unquoted field. -/
def outside (r : Reader) (c : Char) : Reader :=
  if c = ',' then r.endField
  else if c = '\r' ∨ c = '\n' then (if r.started then r.endRecord else r)
  else ⟨r.records, r.fields, r.field ++ [c], .unquoted⟩

/-- Reads one character. A quote at the start of a field opens quotes; inside them every other
character is the field's, and a quote closes them or, doubled, stands for one quote. -/
def step (r : Reader) (c : Char) : Reader :=
  match r.mode with
  | .fieldStart => if c = '"' then { r with mode := .quoted } else r.outside c
  | .unquoted => r.outside c
  | .quoted => if c = '"' then { r with mode := .quoteSeen } else { r with field := r.field ++ [c] }
  | .quoteSeen =>
    if c = '"' then { r with field := r.field ++ ['"'], mode := .quoted } else r.outside c

end Reader

/-- The records of a CSV text, each a list of fields, as a standard reader reads them. -/
def read (text : String) : List (List String) :=
  let r := text.toList.foldl Reader.step (Reader.between [])
  if r.started then r.endRecord.records else r.records

/-- Whether `csvField` quotes a value: when it holds a comma, a quote or a newline. -/
def quotes (v : String) : Bool := v.toList.any fun c => c = ',' || c = '"' || c = '\n'

/-- A value that reads back from the field `csvField` writes for it: one without a return, or
one that `csvField` quotes. -/
def Readable (v : String) : Prop := '\r' ∈ v.toList → quotes v = true

instance : DecidablePred Readable := fun v =>
  inferInstanceAs (Decidable ('\r' ∈ v.toList → quotes v = true))

/-- A character that stands for itself outside quotes. -/
def Plain (c : Char) : Prop := c ≠ ',' ∧ c ≠ '"' ∧ c ≠ '\n' ∧ c ≠ '\r'

instance : DecidablePred Plain := fun c =>
  inferInstanceAs (Decidable (c ≠ ',' ∧ c ≠ '"' ∧ c ≠ '\n' ∧ c ≠ '\r'))

/-- The characters `csvField` writes between the quotes: each quote doubled. -/
def escaped (cs : List Char) : List Char := cs.flatMap fun c => if c = '"' then ['"', '"'] else [c]

/-- A record as the report writes it: the fields as `csvField` writes them, a comma between two
and a newline after the last. -/
def recordChars (v : String) : List String → List Char
  | [] => (csvField v).toList ++ ['\n']
  | w :: ws => (csvField v).toList ++ ',' :: recordChars w ws

/-! ## Fields -/

section Fields

open Reader

theorem toList_csvField (v : String) :
    (csvField v).toList = if quotes v then '"' :: escaped v.toList ++ ['"'] else v.toList := by
  unfold csvField
  split
  · rename_i quoted
    rw [if_pos (show quotes v = true from quoted), String.toList_append, String.toList_append,
      String.toList_join, List.flatMap_map]
    have each : ∀ c : Char, (if c = '"' then "\"\"" else c.toString).toList =
        if c = '"' then ['"', '"'] else [c] := by
      intro c
      split <;> simp [Char.toString]
    simp only [each, escaped]
    rfl
  · rename_i bare
    rw [if_neg (show ¬ quotes v = true from bare)]

/-- A character of a value that `csvField` leaves bare is plain, unless it is a return. -/
theorem plain_of_bare {v : String} (bare : quotes v = false) {c : Char} (mem : c ∈ v.toList)
    (ret : c ≠ '\r') : Plain c := by
  have others : ∀ c ∈ v.toList, c ≠ ',' ∧ c ≠ '"' ∧ c ≠ '\n' := by
    simpa [quotes, not_or, and_assoc] using bare
  obtain ⟨comma, quote, newline⟩ := others c mem
  exact ⟨comma, quote, newline, ret⟩

/-- Outside quotes, a character that is not a quote is read as `outside` says. -/
theorem step_outside {r : Reader} {c : Char} (h : r.mode ≠ .quoted) (hc : c ≠ '"') :
    r.step c = r.outside c := by
  unfold step
  cases hm : r.mode with
  | fieldStart => simp [hc]
  | unquoted => rfl
  | quoted => exact absurd hm h
  | quoteSeen => simp [hc]

/-- Outside quotes, a plain character joins an unquoted field. -/
theorem step_plain {r : Reader} {c : Char} (h : r.mode ≠ .quoted) (plain : Plain c) :
    r.step c = ⟨r.records, r.fields, r.field ++ [c], .unquoted⟩ := by
  obtain ⟨comma, quote, newline, ret⟩ := plain
  rw [step_outside h quote, outside, if_neg comma, if_neg (by rintro (rfl | rfl) <;> contradiction)]

theorem foldl_step_plain {cs : List Char} (plain : ∀ c ∈ cs, Plain c) {r : Reader} {c : Char}
    (h : r.mode ≠ .quoted) (first : Plain c) :
    (c :: cs).foldl step r = ⟨r.records, r.fields, r.field ++ c :: cs, .unquoted⟩ := by
  induction cs generalizing r c with
  | nil => simp [step_plain h first]
  | cons d cs ih =>
    rw [List.foldl_cons, step_plain h first]
    rw [ih (fun c mem => plain c (List.mem_cons_of_mem d mem)) (by simp)
      (plain d List.mem_cons_self)]
    simp

/-- Inside quotes, the escaped characters of a value add the value to the field. -/
theorem foldl_step_escaped (cs : List Char) {r : Reader} (h : r.mode = .quoted) :
    (escaped cs).foldl step r = { r with field := r.field ++ cs } := by
  induction cs generalizing r with
  | nil => simp [escaped]
  | cons c cs ih =>
    rw [escaped, List.flatMap_cons, ← escaped, List.foldl_append]
    by_cases quote : c = '"'
    · -- a doubled quote: the first closes the quotes, the second reopens them with a quote
      subst quote
      simp only [if_true, List.foldl_cons, List.foldl_nil, step, h]
      rw [ih rfl]
      simp
    · simp only [quote, if_false, List.foldl_cons, List.foldl_nil, step, h]
      rw [ih rfl]
      simp

/-- Reading the field `csvField` writes for a readable value, from the start of a field, leaves
the value as the current field, outside quotes; only an empty value leaves nothing begun. -/
theorem foldl_step_csvField {v : String} (readable : Readable v) (recs : List (List String))
    (fs : List String) :
    ∃ m, m ≠ .quoted ∧ (m = .fieldStart → v.toList = []) ∧
      (csvField v).toList.foldl step ⟨recs, fs, [], .fieldStart⟩ = ⟨recs, fs, v.toList, m⟩ := by
  rw [toList_csvField]
  split
  · -- quoted: the opening quote, the escaped value and the closing quote
    refine ⟨.quoteSeen, by decide, fun same => absurd same (by decide), ?_⟩
    have opened : step ⟨recs, fs, [], .fieldStart⟩ '"' = ⟨recs, fs, [], .quoted⟩ := rfl
    simp only [List.foldl_append, List.foldl_cons, List.foldl_nil]
    rw [opened, foldl_step_escaped _ rfl]
    rfl
  · -- bare: every character is plain
    rename_i bare
    have noReturn : '\r' ∉ v.toList := fun ret => bare (readable ret)
    have plain : ∀ c ∈ v.toList, Plain c := fun c mem =>
      plain_of_bare (Bool.eq_false_iff.mpr bare) mem fun same => noReturn (same ▸ mem)
    cases hv : v.toList with
    | nil => exact ⟨.fieldStart, by decide, fun _ => rfl, rfl⟩
    | cons c cs =>
      rw [hv] at plain
      refine ⟨.unquoted, by decide, fun same => absurd same (by decide), ?_⟩
      exact foldl_step_plain (fun d mem => plain d (List.mem_cons_of_mem c mem)) (by simp)
        (plain c List.mem_cons_self)

end Fields

/-! ## Records -/

section Records

open Reader

/-- A record written field by field reads back as that record, from between records. -/
theorem foldl_step_recordChars (v : String) (vs : List String)
    (readable : Readable v ∧ ∀ w ∈ vs, Readable w) (recs : List (List String)) (fs : List String)
    (begun : fs ≠ [] ∨ vs ≠ []) :
    (recordChars v vs).foldl step ⟨recs, fs, [], .fieldStart⟩ = between (recs ++ [fs ++ v :: vs]) := by
  induction vs generalizing v fs with
  | nil =>
    obtain ⟨m, settled, -, read⟩ := foldl_step_csvField readable.1 recs fs
    have started : fs ≠ [] := begun.resolve_right (by simp)
    rw [recordChars, List.foldl_append, read, List.foldl_cons, List.foldl_nil,
      step_outside settled (by decide)]
    simp [outside, started, Reader.started, endRecord]
  | cons w ws ih =>
    obtain ⟨m, settled, -, read⟩ := foldl_step_csvField readable.1 recs fs
    rw [recordChars, List.foldl_append, read, List.foldl_cons, step_outside settled (by decide)]
    simp only [outside, if_true, endField, String.ofList_toList]
    rw [ih w ⟨readable.2 w List.mem_cons_self, fun u mem => readable.2 u (List.mem_cons_of_mem w mem)⟩
      (fs ++ [v]) (.inl (by simp))]
    simp

/-- Texts read one after another, each reading as some records from between records, read as
all those records in order. -/
theorem foldl_step_flatMap {α : Type} (rs : List α) (f : α → List Char)
    (g : α → List (List String))
    (each : ∀ a ∈ rs, ∀ recs, (f a).foldl step (between recs) = between (recs ++ g a))
    (recs : List (List String)) :
    (rs.flatMap f).foldl step (between recs) = between (recs ++ rs.flatMap g) := by
  induction rs generalizing recs with
  | nil => simp
  | cons a rs ih =>
    rw [List.flatMap_cons, List.foldl_append, each a List.mem_cons_self,
      ih (fun b mem => each b (List.mem_cons_of_mem a mem)), List.flatMap_cons, List.append_assoc]

/-- A text that leaves the reader between records reads as the records read. -/
theorem read_of_between {text : String} {recs : List (List String)}
    (h : text.toList.foldl step (between []) = between recs) : read text = recs := by
  unfold read
  rw [h]
  rfl

/-- Reading a character never takes back a record. -/
theorem records_prefix_step (r : Reader) (c : Char) : r.records <+: (r.step c).records := by
  have outsideKeeps : r.records <+: (r.outside c).records := by
    unfold outside
    split_ifs
    · exact List.prefix_refl _
    · exact List.prefix_append _ _
    all_goals exact List.prefix_refl _
  unfold step
  split
  · split
    · exact List.prefix_refl _
    · exact outsideKeeps
  · exact outsideKeeps
  · split <;> exact List.prefix_refl _
  · split
    · exact List.prefix_refl _
    · exact outsideKeeps

/-- The records read from any part of a text stay the first records read from all of it. -/
theorem records_prefix_foldl (cs : List Char) (r : Reader) :
    r.records <+: (cs.foldl step r).records := by
  induction cs generalizing r with
  | nil => exact List.prefix_refl _
  | cons c cs ih => exact (records_prefix_step r c).trans (ih (r.step c))

theorem records_prefix_read (text : String) :
    (text.toList.foldl step (between [])).records <+: read text := by
  dsimp only [read]
  split
  · exact List.prefix_append _ _
  · exact List.prefix_refl _

end Records

/-! ## Numbers -/

section Numbers

theorem plain_of_isDigit {c : Char} (digit : c.isDigit = true) : Plain c := by
  have code := Number.isDigit_toNat digit
  refine ⟨?_, ?_, ?_, ?_⟩ <;> rintro rfl <;> revert code <;> decide

theorem plain_of_digit_or_point {c : Char} (h : c.isDigit = true ∨ c = '.') : Plain c := by
  rcases h with digit | rfl
  · exact plain_of_isDigit digit
  · decide

/-- The plain layout places digits with at most a point among them. -/
theorem plain_place {ds : List Char} (digits : ∀ c ∈ ds, c.isDigit = true) (kk : Int) :
    ∀ c ∈ Number.ShortestLayout.plain.place ds kk, Plain c := by
  intro c mem
  apply plain_of_digit_or_point
  simp only [Number.ShortestLayout.place, Number.ShortestLayout.plain, Bool.false_eq_true,
    if_false, if_true, List.append_nil] at mem
  -- the plain layout is always positional: the point stands after, inside or before the digits
  split_ifs at mem
  · rcases List.mem_append.mp mem with inDigits | inZeros
    · exact .inl (digits c inDigits)
    · exact .inl (Number.isDigit_of_mem_zeros inZeros)
  · rcases List.mem_append.mp mem with inTake | rest
    · exact .inl (digits c (List.mem_of_mem_take inTake))
    · rcases List.mem_cons.mp rest with rfl | inDrop
      · exact .inr rfl
      · exact .inl (digits c (List.mem_of_mem_drop inDrop))
  · simp only [List.mem_cons, List.cons_append, List.mem_append] at mem
    rcases mem with rfl | rfl | inZeros | inDigits
    · exact .inl rfl
    · exact .inr rfl
    · exact .inl (Number.isDigit_of_mem_zeros inZeros)
    · exact .inl (digits c inDigits)

/-- Shortest digits in the plain layout, with or without a sign, are plain characters. -/
theorem write_plain (negative : Bool) (d : Number.Decimal) :
    ∀ c ∈ (Number.ShortestLayout.plain.write negative d).toList, Plain c := by
  intro c mem
  simp only [Number.ShortestLayout.write, String.toList_ofList, List.mem_append] at mem
  rcases mem with sign | body
  · cases negative
    · simp at sign
    · simp only [if_true, List.mem_singleton] at sign
      rw [sign]
      decide
  · -- zero is written as a lone digit, without a point
    have noPoint : Number.ShortestLayout.plain.pointZero = false := rfl
    simp only [noPoint, Bool.false_eq_true, if_false] at body
    split_ifs at body
    · rw [List.mem_singleton.mp body]
      decide
    · exact plain_place (fun d mem => Number.isDigit_of_mem_toDigits mem) _ c body

/-- A number's text is made of plain characters: digits, a sign and a point, or the words of
the values without digits. -/
theorem display_plain (x : Float) : ∀ c ∈ (Number.display x).toList, Plain c := by
  unfold Number.display Number.ShortestLayout.text?
  cases h : Number.Binary.ofFloat x with
  | finite negative m e => exact write_plain _ _
  | infinite negative => cases negative <;> simp [Number.nonFiniteText, Plain]
  | nan => simp [Number.nonFiniteText, Plain]

theorem quotes_display (x : Float) : quotes (Number.display x) = false := by
  simp only [quotes, List.any_eq_false, Bool.or_eq_true, decide_eq_true_eq]
  intro c mem
  obtain ⟨comma, quote, newline, -⟩ := display_plain x c mem
  rintro ((rfl | rfl) | rfl) <;> contradiction

theorem readable_display (x : Float) : Readable (Number.display x) :=
  fun ret => absurd rfl ((display_plain x '\r' ret).2.2.2)

end Numbers

end Csv

/-! ## The report's CSV -/

open Csv

/-- The fields of the header. -/
def csvHeader : List String := ["line", "point", "speedup", "progress_speedup", "area", "slope"]

theorem foldl_step_header :
    ("line,point,speedup,progress_speedup,area,slope\n" : String).toList.foldl Reader.step
      (Reader.between []) = Reader.between [csvHeader] := by
  decide

/-- A row of the report: its fields as strings. -/
theorem row_toList (line point : String) (a b c d : String) (ha : quotes a = false)
    (hb : quotes b = false) (hc : quotes c = false) (hd : quotes d = false) :
    (csvField line ++ "," ++ csvField point ++ "," ++ a ++ "," ++ b ++ "," ++ c ++ "," ++ d ++
      "\n").toList = recordChars line [point, a, b, c, d] := by
  have bare : ∀ v, quotes v = false → (csvField v).toList = v.toList := fun v h => by
    rw [toList_csvField, h]
    rfl
  simp only [recordChars, String.toList_append, bare a ha, bare b hb, bare c hc, bare d hd,
    List.append_assoc]
  rfl

/-- A row with readable names and a slope that needs no quotes reads back as its record. -/
theorem foldl_step_row {line point slope : String} (speedup progress area : Float)
    (readableLine : Readable line) (readablePoint : Readable point) (bareSlope : quotes slope = false)
    (readableSlope : Readable slope) (recs : List (List String)) :
    (csvField line ++ "," ++ csvField point ++ "," ++ Number.display speedup ++ "," ++
      Number.display progress ++ "," ++ Number.display area ++ "," ++ slope ++ "\n").toList.foldl
        Reader.step (Reader.between recs) =
      Reader.between (recs ++ [[line, point, Number.display speedup, Number.display progress,
        Number.display area, slope]]) := by
  rw [row_toList _ _ _ _ _ _ (quotes_display _) (quotes_display _) (quotes_display _) bareSlope]
  refine foldl_step_recordChars _ _ ⟨readableLine, ?_⟩ _ [] (.inr (by simp))
  simp only [List.mem_cons, List.not_mem_nil, or_false]
  rintro w (rfl | rfl | rfl | rfl | rfl)
  · exact readablePoint
  · exact readable_display _
  · exact readable_display _
  · exact readable_display _
  · exact readableSlope

/-- **The CSV reads back as the report.** When no name of a line or a point holds a return
that `csvField` leaves bare, a standard reader reads the report's CSV as the header and then one
record of six fields for each line, each of its points and each of the point's measurements, in
that order, holding the line's name, the point's name, the speedup, the progress speedup, the
point's area and its fitted slope. -/
theorem csv_reads_back (r : Report)
    (names : ∀ l ∈ r.impacts, Readable l.line ∧ ∀ p ∈ l.points, Readable p.point) :
    Csv.read r.csv = csvHeader ::
      r.impacts.flatMap fun l => l.points.flatMap fun p => p.measurements.map fun m =>
        [l.line, p.point, Number.display m.speedup, Number.display m.progressSpeedup,
          Number.display p.area, (p.fit.map fun f => Number.display f.slope).getD ""] := by
  apply read_of_between
  unfold Report.csv
  rw [String.toList_append, List.foldl_append, foldl_step_header, String.toList_join, List.flatMap_assoc,
    ← List.singleton_append]
  refine foldl_step_flatMap _ _ _ (fun l hl recs => ?_) _
  rw [List.flatMap_assoc]
  refine foldl_step_flatMap _ _ _ (fun p hp recs => ?_) _
  rw [List.flatMap_map, List.map_eq_flatMap]
  refine foldl_step_flatMap _ _ _ (fun m _ recs => ?_) _
  obtain ⟨line, points⟩ := names l hl
  -- the slope is a number's text, or empty without a fit
  cases p.fit with
  | none => exact foldl_step_row _ _ _ line (points p hp) rfl (by decide) recs
  | some f =>
    exact foldl_step_row _ _ _ line (points p hp) (quotes_display _) (readable_display _) recs

/-- A line whose name holds a comma and a return, which `csvField` quotes, with one point and
one measurement. -/
theorem quoted_return_reads_back :
    let r : Report := ⟨1, 1, 1000, [⟨"a,\rb:1", [⟨"p", [⟨0, 0⟩], 0, none⟩]⟩], []⟩
    Readable "a,\rb:1" ∧ Csv.read r.csv = [csvHeader,
      ["a,\rb:1", "p", Number.display 0, Number.display 0, Number.display 0, ""]] := by
  intro r
  exact ⟨by decide, csv_reads_back r (by decide)⟩

/-- **A return in a line's name splits its first row.** When the first row of the report is
for a line whose name holds a return and none of the characters `csvField` quotes, the reader
ends the row's record at the first return: the record after the header holds one field, the
part of the name before it. -/
theorem return_in_line_splits_record (r : Report) {l : LineImpact} {p : PointImpact}
    {m : Measurement} {ls : List LineImpact} {ps : List PointImpact} {ms : List Measurement}
    (first : r.impacts = l :: ls) (firstPoint : l.points = p :: ps)
    (firstMeasurement : p.measurements = m :: ms) {pre post : List Char}
    (name : l.line.toList = pre ++ '\r' :: post) (begun : pre ≠ []) (firstReturn : '\r' ∉ pre)
    (bare : quotes l.line = false) :
    [csvHeader, [String.ofList pre]] <+: Csv.read r.csv := by
  -- the text is the header, the line's name as it stands, and the rest
  obtain ⟨rest, text⟩ : ∃ rest, r.csv.toList =
      ("line,point,speedup,progress_speedup,area,slope\n" : String).toList ++ pre ++
        '\r' :: rest := by
    unfold Report.csv
    simp only [first, firstPoint, firstMeasurement, List.flatMap_cons, List.map_cons,
      List.cons_append, String.join_cons, String.toList_append, toList_csvField, bare, name,
      Bool.false_eq_true, if_false, List.append_assoc]
    exact ⟨_, rfl⟩
  have plain : ∀ c ∈ pre, Plain c := fun c mem =>
    plain_of_bare bare (by rw [name]; exact List.mem_append_left _ mem)
      fun same => firstReturn (same ▸ mem)
  obtain ⟨c, cs, rfl⟩ := List.exists_cons_of_ne_nil begun
  refine List.IsPrefix.trans ?_ (records_prefix_read r.csv)
  rw [text, List.foldl_append, List.foldl_append, foldl_step_header,
    foldl_step_plain (fun d mem => plain d (List.mem_cons_of_mem c mem)) (by decide)
      (plain c List.mem_cons_self), List.foldl_cons]
  -- the return ends the record begun by the name
  dsimp only [Reader.between, List.nil_append]
  have ended : Reader.step ⟨[csvHeader], [], c :: cs, .unquoted⟩ '\r' =
      Reader.between [csvHeader, [String.ofList (c :: cs)]] := by
    simp [Reader.step, Reader.outside, Reader.started, Reader.endRecord]
  rw [ended]
  exact records_prefix_foldl rest (Reader.between _)

/-- A line named `a`, a return and `b:1`, with one point and one measurement. -/
theorem return_in_line_name_splits :
    let r : Report := ⟨1, 1, 1000, [⟨"a\rb:1", [⟨"p", [⟨0, 0⟩], 0, none⟩]⟩], []⟩
    quotes "a\rb:1" = false ∧ [csvHeader, [String.ofList ['a']]] <+: Csv.read r.csv := by
  intro r
  refine ⟨by decide, return_in_line_splits_record r rfl rfl rfl
    (show "a\rb:1".toList = ['a'] ++ '\r' :: ['b', ':', '1'] by decide) (by decide) (by decide)
    (by decide)⟩

end CausalProfiler
