import AeroComply.Import.Service

/-!
# CsvFile — the rows of a CSV file

The CSV branch of `parse_file_content` of `app/services/import_service.py`.  What `csv.reader`
makes of the text is given; `csv.DictReader` names the cells of a record by the header.
`parseRecords_cases` says which files are refused, and which make it raise what it does not mean to.
-/

namespace AeroComply

namespace ImportService

/-- The records of a CSV text: the header, if there is one, and the others; a blank line is an
empty record. -/
structure CsvFile where
  fieldnames : Option (List String)
  records : List (List String)

def maxImportRows : Nat := 50000

section Parse

variable (py : Interpreter) (fieldnames : List String)

/-- The named cells of a record, as `csv.DictReader` has them: a missing cell is `None`, and of two
columns with one name the later one stays. -/
def namedCells (record : List String) : Dict (Option String) :=
  Dict.ofEntries (fieldnames.zipIdx.map fun f => ⟨f.1, record[f.2]?⟩)

/-- The cells beyond the header, which are a list under the key `None`. -/
def surplus (record : List String) : List String := record.drop fieldnames.length

/-- `(v or "").strip()` of a named cell. -/
def stripCell (v : Option String) : String := py.unicode.strip (v.getD "")

/-- Some named cell is not blank. -/
def keeps (record : List String) : Bool :=
  (namedCells fieldnames record).rows.any fun c => stripCell py c.value ≠ ""

/-- `any((v or "").strip() for v in row.values())`: the list of the surplus cells comes last, and a
list has no `strip`. -/
def anyText (record : List String) : Except Error Bool :=
  if keeps py fieldnames record then .ok true
  else if surplus fieldnames record ≠ [] then .error .attributeError
  else .ok false

/-- The row that is appended: its keys and cells are stripped, and a column without a name is left
out. -/
def rawRow (record : List String) : Dict String :=
  Dict.ofEntries
    (((namedCells fieldnames record).rows.filter fun c => c.key ≠ "").map fun c =>
      ⟨py.unicode.strip c.key, stripCell py c.value⟩)

/-- The loop over the records; `kept` rows were appended before. -/
def parseRecords (kept : Nat) : List (List String) → Except Error (List (Dict String))
  | [] => .ok []
  | record :: records => do
    if ← anyText py fieldnames record then
      raiseIf (maxImportRows < kept + 1)
        (.aeroComply s!"File exceeds maximum of {maxImportRows} rows" "file_too_large")
      let rows ← parseRecords (kept + 1) records
      pure (rawRow py fieldnames record :: rows)
    else parseRecords kept records

/-- `parse_file_content`, of a file that is not a workbook. -/
def parseFileContent (csv : CsvFile) (fileHash : String) : Except Error ParsedFile :=
  match csv.fieldnames with
  | none => .error (.aeroComply "File has no header row" "invalid_file_format")
  | some fieldnames => do
    let rawRows ← parseRecords py fieldnames 0 csv.records
    pure { rawRows, sheetNames := ["Default"], selectedSheet := "Default", fileHash }

end Parse

/-! ## Blank rows -/

section Blank

variable {py : Interpreter} {fieldnames record : List String} {kept : Nat}
  {records : List (List String)}

/-- Some cell of the record is not blank. -/
def isNonBlank (py : Interpreter) (record : List String) : Bool :=
  record.any fun cell => py.unicode.strip cell ≠ ""

/-- Only the surplus of the record can have a text. -/
def Overhangs (py : Interpreter) (fieldnames record : List String) : Prop :=
  keeps py fieldnames record = false ∧ surplus fieldnames record ≠ []

/-- Such a record is reached, after no more rows than are allowed. -/
def Overhanging (py : Interpreter) (fieldnames : List String) (kept : Nat)
    (records : List (List String)) : Prop :=
  ∃ before record after, records = before ++ record :: after ∧ Overhangs py fieldnames record ∧
    kept + before.countP (keeps py fieldnames) ≤ maxImportRows

/-- The rows that are appended for the records. -/
def rawRowsOf (py : Interpreter) (fieldnames : List String) (records : List (List String)) :
    List (Dict String) :=
  (records.filter (keeps py fieldnames)).map (rawRow py fieldnames)

theorem anyText_of_keeps (h : keeps py fieldnames record = true) :
    anyText py fieldnames record = .ok true := by
  rw [anyText, if_pos h]

theorem anyText_of_overhangs (h : Overhangs py fieldnames record) :
    anyText py fieldnames record = .error .attributeError := by
  rw [anyText, h.1, if_neg Bool.false_ne_true, if_pos h.2]

theorem anyText_of_blank (h : keeps py fieldnames record = false)
    (hsurplus : surplus fieldnames record = []) : anyText py fieldnames record = .ok false := by
  rw [anyText, h, if_neg Bool.false_ne_true, if_neg (not_not.2 hsurplus)]

theorem overhanging_cons_of_keeps (h : keeps py fieldnames record = true) :
    Overhanging py fieldnames kept (record :: records) ↔
      Overhanging py fieldnames (kept + 1) records := by
  constructor
  · rintro ⟨before, r, after, heq, hover, hcount⟩
    cases before with
    | nil =>
      cases heq
      cases h.symm.trans hover.1
    | cons b before =>
      cases heq
      refine ⟨before, r, after, rfl, hover, ?_⟩
      rw [List.countP_cons_of_pos h] at hcount
      omega
  · rintro ⟨before, r, after, rfl, hover, hcount⟩
    refine ⟨record :: before, r, after, rfl, hover, ?_⟩
    rw [List.countP_cons_of_pos h]
    omega

theorem overhanging_cons_of_blank (h : keeps py fieldnames record = false)
    (hsurplus : surplus fieldnames record = []) :
    Overhanging py fieldnames kept (record :: records) ↔
      Overhanging py fieldnames kept records := by
  have hneg : ¬keeps py fieldnames record = true := Bool.eq_false_iff.1 h
  constructor
  · rintro ⟨before, r, after, heq, hover, hcount⟩
    cases before with
    | nil =>
      cases heq
      exact absurd hsurplus hover.2
    | cons b before =>
      cases heq
      rw [List.countP_cons_of_neg hneg] at hcount
      exact ⟨before, r, after, rfl, hover, hcount⟩
  · rintro ⟨before, r, after, rfl, hover, hcount⟩
    refine ⟨record :: before, r, after, rfl, hover, ?_⟩
    rw [List.countP_cons_of_neg hneg]
    exact hcount

/-- How the loop ends: at a record of which only the surplus could have a text, at a row too many,
or with a row for each record that has a named text. -/
inductive Parsed (py : Interpreter) (fieldnames : List String) (kept : Nat)
    (records : List (List String)) : Except Error (List (Dict String)) → Prop
  | crashed (h : Overhanging py fieldnames kept records) :
      Parsed py fieldnames kept records (.error .attributeError)
  | tooLarge (h : ¬Overhanging py fieldnames kept records)
      (hcount : maxImportRows < kept + records.countP (keeps py fieldnames)) :
      Parsed py fieldnames kept records
        (.error (.aeroComply s!"File exceeds maximum of {maxImportRows} rows" "file_too_large"))
  | rows (h : ¬Overhanging py fieldnames kept records)
      (hcount : kept + records.countP (keeps py fieldnames) ≤ maxImportRows) :
      Parsed py fieldnames kept records (.ok (rawRowsOf py fieldnames records))

theorem parseRecords_cases (hkept : kept ≤ maxImportRows) :
    Parsed py fieldnames kept records (parseRecords py fieldnames kept records) := by
  induction records generalizing kept with
  | nil =>
    refine .rows ?_ hkept
    rintro ⟨before, r, after, heq, -, -⟩
    exact absurd heq.symm (List.append_ne_nil_of_right_ne_nil before (List.cons_ne_nil r after))
  | cons record records ih =>
    rw [parseRecords]
    cases hkeeps : keeps py fieldnames record with
    | true =>
      rw [anyText_of_keeps hkeeps, ok_bind, if_pos rfl]
      by_cases hmax : maxImportRows < kept + 1
      · rw [raiseIf, if_pos hmax]
        refine .tooLarge ?_ ?_
        · rw [overhanging_cons_of_keeps hkeeps]
          rintro ⟨before, r, after, -, -, hcount⟩
          omega
        · rw [List.countP_cons_of_pos hkeeps]
          omega
      · rw [raiseIf, if_neg hmax, ok_bind]
        have hrest := ih (Nat.le_of_not_lt hmax)
        generalize parseRecords py fieldnames (kept + 1) records = rest at hrest ⊢
        cases hrest with
        | crashed h => exact .crashed ((overhanging_cons_of_keeps hkeeps).2 h)
        | tooLarge h hcount =>
          refine .tooLarge (mt (overhanging_cons_of_keeps hkeeps).1 h) ?_
          rw [List.countP_cons_of_pos hkeeps]
          omega
        | rows h hcount =>
          have hrows : rawRowsOf py fieldnames (record :: records)
              = rawRow py fieldnames record :: rawRowsOf py fieldnames records := by
            rw [rawRowsOf, List.filter_cons_of_pos hkeeps, List.map_cons, rawRowsOf]
          rw [ok_bind, ← hrows]
          refine .rows (mt (overhanging_cons_of_keeps hkeeps).1 h) ?_
          rw [List.countP_cons_of_pos hkeeps]
          omega
    | false =>
      by_cases hsurplus : surplus fieldnames record = []
      · rw [anyText_of_blank hkeeps hsurplus, ok_bind, if_neg Bool.false_ne_true]
        have hneg : ¬keeps py fieldnames record = true := Bool.eq_false_iff.1 hkeeps
        have hrest := ih hkept
        generalize parseRecords py fieldnames kept records = rest at hrest ⊢
        cases hrest with
        | crashed h => exact .crashed ((overhanging_cons_of_blank hkeeps hsurplus).2 h)
        | tooLarge h hcount =>
          refine .tooLarge (mt (overhanging_cons_of_blank hkeeps hsurplus).1 h) ?_
          rw [List.countP_cons_of_neg hneg]
          exact hcount
        | rows h hcount =>
          have hrows : rawRowsOf py fieldnames (record :: records)
              = rawRowsOf py fieldnames records := by
            rw [rawRowsOf, List.filter_cons_of_neg hneg, rawRowsOf]
          rw [← hrows]
          refine .rows (mt (overhanging_cons_of_blank hkeeps hsurplus).1 h) ?_
          rw [List.countP_cons_of_neg hneg]
          exact hcount
      · rw [anyText_of_overhangs ⟨hkeeps, hsurplus⟩]
        exact .crashed ⟨[], record, records, rfl, ⟨hkeeps, hsurplus⟩, hkept⟩

theorem isNonBlank_of_keeps (h : keeps py fieldnames record = true) :
    isNonBlank py record = true := by
  obtain ⟨c, hc, htext⟩ := List.any_eq_true.1 h
  obtain ⟨f, -, rfl⟩ := List.mem_map.1 (Dict.mem_of_mem_ofEntries hc)
  have htext : py.unicode.strip (record[f.2]?.getD "") ≠ "" := of_decide_eq_true htext
  cases hcell : record[f.2]? with
  | none =>
    rw [hcell] at htext
    exact absurd rfl htext
  | some cell =>
    rw [hcell] at htext
    exact List.any_eq_true.2 ⟨cell, List.mem_of_getElem? hcell, decide_eq_true htext⟩

theorem length_rawRowsOf_eq_iff :
    (rawRowsOf py fieldnames records).length = records.countP (isNonBlank py) ↔
      ∀ record ∈ records, isNonBlank py record = true → keeps py fieldnames record = true := by
  rw [rawRowsOf, List.length_map, ← List.countP_eq_length_filter]
  induction records with
  | nil => exact iff_of_true rfl fun _ h => (nomatch h)
  | cons record records ih =>
    have hle : records.countP (keeps py fieldnames) ≤ records.countP (isNonBlank py) :=
      List.countP_mono_left fun x _ h => isNonBlank_of_keeps h
    rw [List.forall_mem_cons, ← ih]
    cases hkeeps : keeps py fieldnames record with
    | true =>
      rw [List.countP_cons_of_pos hkeeps, List.countP_cons_of_pos (isNonBlank_of_keeps hkeeps)]
      exact ⟨fun h => ⟨fun _ => rfl, Nat.succ.inj h⟩, fun h => congrArg Nat.succ h.2⟩
    | false =>
      rw [List.countP_cons_of_neg (Bool.eq_false_iff.1 hkeeps)]
      cases hnonBlank : isNonBlank py record with
      | true =>
        rw [List.countP_cons_of_pos hnonBlank]
        refine iff_of_false (fun h => ?_) fun h => Bool.false_ne_true (h.1 rfl)
        omega
      | false =>
        rw [List.countP_cons_of_neg (Bool.eq_false_iff.1 hnonBlank)]
        exact ⟨fun h => ⟨fun hfalse => absurd hfalse Bool.false_ne_true, h⟩, fun h => h.2⟩

end Blank

end ImportService
end AeroComply
