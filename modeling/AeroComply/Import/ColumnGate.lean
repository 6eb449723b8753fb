import Mathlib.Data.List.Find
import AeroComply.Import.Agreement
import AeroComply.Import.CsvImport

/-!
# ColumnGate — the required columns, three times

`create_import_job` looks for the required columns among the headers, `auto_map_columns` gives every
header a field, and a row validator reads the fields of the row that `_apply_mapping` makes.  A
header can be accepted for a column and mapped to another field, the first one whose synonyms it is
among; and of two headers with one field the later one counts, whatever its cell holds.

`gate_agrees_iff` says for which headers the three agree.
-/

namespace AeroComply

open Relational (Table)

namespace ImportService

/-! ## What the automatic mapping makes of a header -/

/-- A field, by its name in lower case, claims a header, by what the header is in lower case. -/
def claims (lowered name : String) (synonyms : List String) : Bool :=
  let clean := replaceChar '-' ' ' (replaceChar '_' ' ' lowered)
  clean = replaceChar '_' ' ' name || synonyms.contains clean || synonyms.contains lowered ||
    (synonyms.map (replaceChar '_' ' ')).contains clean

/-- The first field that claims a header. -/
def fieldOf (lowered : String) : Option String :=
  (canonicalSynonyms.find? fun field => claims lowered field.1 field.2).map Prod.fst

/-- `lower` leaves the names of the fields alone. -/
def LowersFields (py : Interpreter) : Prop :=
  ∀ field ∈ canonicalSynonyms, py.lower field.1 = field.1

section Mapping

variable {py : Interpreter} {headers : List String} {header : String}

theorem canonicalOf_eq_find (py : Interpreter) (header : String) : canonicalOf py header =
    ((canonicalSynonyms.find? fun field =>
      claims (py.lower (py.unicode.strip header)) (py.lower field.1) field.2).map Prod.fst).getD
        (py.unicode.strip header) := rfl

theorem canonicalOf_eq (hlower : LowersFields py) (hstrip : py.unicode.strip header = header) :
    canonicalOf py header = (fieldOf (py.lower header)).getD header := by
  have hfind : (canonicalSynonyms.find? fun field =>
      claims (py.lower header) (py.lower field.1) field.2) =
        canonicalSynonyms.find? fun field => claims (py.lower header) field.1 field.2 :=
    List.find?_congr fun field hfield => by rw [hlower field hfield]
  rw [canonicalOf_eq_find, hstrip, hfind, fieldOf]

/-- The characters of a text, with blanks for underscores. -/
def spaced (s : String) : List Char := s.toList.map fun c => if c = '_' then ' ' else c

theorem toList_replaceChar (a b : Char) (s : String) :
    (replaceChar a b s).toList = s.toList.map fun c => if c = a then b else c :=
  String.toList_ofList

theorem spaced_replaceChar (s : String) : spaced (replaceChar '_' ' ' s) = spaced s := by
  rw [spaced, toList_replaceChar, List.map_map]
  refine List.map_congr_left fun c _ => ?_
  by_cases hc : c = '_'
  · simp [hc]
  · simp [hc]

variable {synonyms : List String} {s : String}

theorem clean_eq (hdash : '-' ∉ s.toList) :
    replaceChar '-' ' ' (replaceChar '_' ' ' s) = replaceChar '_' ' ' s := by
  refine String.toList_injective ?_
  rw [toList_replaceChar, toList_replaceChar, List.map_map]
  refine List.map_congr_left fun c hc => ?_
  have hne : c ≠ '-' := fun h => hdash (h ▸ hc)
  by_cases hunder : c = '_'
  · simp [hunder]
  · simp [hunder, hne]

theorem claims_of_mem {s name : String} (h : s ∈ synonyms) :
    claims s name synonyms = true := by
  simp [claims, h]

theorem claims_eq_false {s name : String} (hdash : '-' ∉ s.toList)
    (hne : ∀ x ∈ name :: synonyms, spaced x ≠ spaced s) : claims s name synonyms = false := by
  have hname : replaceChar '_' ' ' s ≠ replaceChar '_' ' ' name := by
    intro h
    refine hne name List.mem_cons_self ?_
    rw [← spaced_replaceChar name, ← h, spaced_replaceChar]
  have hclean : replaceChar '_' ' ' s ∉ synonyms := fun h =>
    hne _ (List.mem_cons_of_mem name h) (spaced_replaceChar s)
  have hself : s ∉ synonyms := fun h => hne s (List.mem_cons_of_mem name h) rfl
  have hspaced : replaceChar '_' ' ' s ∉ synonyms.map (replaceChar '_' ' ') := by
    intro h
    obtain ⟨x, hx, heq⟩ := List.mem_map.1 h
    refine hne x (List.mem_cons_of_mem name hx) ?_
    rw [← spaced_replaceChar x, heq, spaced_replaceChar]
  rw [claims, clean_eq hdash]
  simp only [List.contains_eq_mem, hname, hclean, hself, hspaced, decide_false, Bool.or_self]

theorem fieldOf_of_first {i : Nat} {field : String × List String}
    (hfield : canonicalSynonyms[i]? = some field) (hmem : s ∈ field.2) (hdash : '-' ∉ s.toList)
    (hnone : ∀ f ∈ canonicalSynonyms.take i, ∀ x ∈ f.1 :: f.2, spaced x ≠ spaced s) :
    fieldOf s = some field.1 := by
  obtain ⟨hlt, hget⟩ := List.getElem?_eq_some_iff.1 hfield
  have htable : canonicalSynonyms = canonicalSynonyms.take i ++
      field :: canonicalSynonyms.drop (i + 1) := by
    rw [← hget, ← List.drop_eq_getElem_cons hlt, List.take_append_drop]
  have hfound : canonicalSynonyms.find? (fun field => claims s field.1 field.2) = some field := by
    refine List.find?_eq_some_iff_append.2 ⟨claims_of_mem hmem, _, _, htable, ?_⟩
    intro f hf
    rw [claims_eq_false hdash (hnone f hf)]
    rfl
  rw [fieldOf, hfound]
  rfl

theorem fields_apart : ∀ i ∈ [0, 1, 11, 14, 15], ∀ field ∈ canonicalSynonyms[i]?, ∀ s ∈ field.2,
    (field.1 = "aircraft_type" ∧ s = "type") ∨ ('-' ∉ s.toList ∧
      ∀ f ∈ canonicalSynonyms.take i, ∀ x ∈ f.1 :: f.2, spaced x ≠ spaced s) := by
  decide +kernel

theorem field_of_required (d : ImportDomain) : ∀ c ∈ requiredColumns d, ∃ i ∈ [0, 1, 14, 15],
    ∃ field ∈ canonicalSynonyms[i]?, field.1 = c ∧ field.2 = synonymsOf c := by
  cases d with
  | aircraft => decide
  | drone => decide
  | flight => decide

variable {d : ImportDomain} {column : String}

theorem fieldOf_of_synonym {c s : String} (hc : c ∈ requiredColumns d) (hs : s ∈ synonymsOf c)
    (htype : s ≠ "type") : fieldOf s = some c := by
  obtain ⟨i, hi, field, hfield, rfl, hsynonyms⟩ := field_of_required d c hc
  rw [← hsynonyms] at hs
  have hsub : ∀ i ∈ [0, 1, 14, 15], i ∈ [0, 1, 11, 14, 15] := by decide
  obtain ⟨hdash, hnone⟩ := (fields_apart i (hsub i hi) field hfield s hs).resolve_left fun h => htype h.2
  exact fieldOf_of_first hfield hs hdash hnone

theorem fieldOf_type : fieldOf "type" = some "mission_type" := by
  have hfield : ∃ field ∈ canonicalSynonyms[11]?, field.1 = "mission_type" ∧ "type" ∈ field.2 := by
    decide
  obtain ⟨field, hfield, hname, hmem⟩ := hfield
  have hother : ¬(field.1 = "aircraft_type" ∧ "type" = "type") := by
    rw [hname]
    decide
  obtain ⟨hdash, hnone⟩ :=
    (fields_apart 11 (by decide) field hfield "type" hmem).resolve_left hother
  rw [← hname]
  exact fieldOf_of_first hfield hmem hdash hnone

theorem eq_aircraft_type_of_type (d : ImportDomain) :
    ∀ c ∈ requiredColumns d, "type" ∈ synonymsOf c → c = "aircraft_type" := by
  cases d with
  | aircraft => decide
  | drone => decide
  | flight => decide

theorem mem_synonymsOf_self (d : ImportDomain) : ∀ c ∈ requiredColumns d, c ∈ synonymsOf c := by
  cases d with
  | aircraft => decide
  | drone => decide
  | flight => decide

theorem fields_ne_empty : ∀ field ∈ canonicalSynonyms, field.1 ≠ "" := by decide

theorem canonicalOf_eq_empty (hstrip : py.unicode.strip header = header)
    (h : canonicalOf py header = "") : header = "" := by
  rw [canonicalOf_eq_find, hstrip] at h
  cases hfound : canonicalSynonyms.find? fun field =>
      claims (py.lower header) (py.lower field.1) field.2 with
  | none =>
    rw [hfound] at h
    exact h
  | some field =>
    rw [hfound] at h
    exact absurd h (fields_ne_empty field (List.mem_of_find?_eq_some hfound))

/-- The field of a header is the text that `_apply_mapping` puts in its place. -/
theorem targetOf_autoMapColumns (hstripped : ∀ h ∈ headers, py.unicode.strip h = h)
    (hmem : header ∈ headers) :
    targetOf py (autoMapColumns py headers) header = canonicalOf py header := by
  have hget : (autoMapColumns py headers).get header = some (canonicalOf py header) := by
    rw [autoMapColumns]
    refine Dict.get_ofEntries_of_forall ?_ ?_
    · refine ⟨⟨py.unicode.strip header, canonicalOf py header⟩, ?_, hstripped header hmem⟩
      exact List.mem_map_of_mem hmem
    · intro e he hkey
      obtain ⟨h, hh, heq⟩ := List.mem_map.1 he
      have hsame : h = header := (hstripped h hh).symm.trans ((congrArg Entry.key heq).trans hkey)
      rw [← heq, hsame]
  rw [targetOf, hstripped header hmem, getNonempty, hget, Option.or_self]
  by_cases hempty : canonicalOf py header = ""
  · rw [hempty, canonicalOf_eq_empty (hstripped header hmem) hempty]
    rfl
  · rw [Option.filter_some, if_pos (decide_eq_true hempty), Option.getD_some]

/-! ## The gate -/

/-- The gate takes the header for the column: it is mapped to the column, or named after it. -/
def Accepts (py : Interpreter) (column header : String) : Prop :=
  canonicalOf py header = column ∨ py.lower header = column ∨
    py.lower header ∈ synonymsOf column

theorem exists_accepts (hgate : missingColumns py d headers (autoMapColumns py headers) = [])
    (hc : column ∈ requiredColumns d) : ∃ h ∈ headers, Accepts py column h := by
  have hfound := List.filter_eq_nil_iff.1 hgate column hc
  simp only [Bool.and_eq_true, Bool.not_eq_true', not_and, Bool.not_eq_false] at hfound
  by_cases hmapped : ((autoMapColumns py headers).rows.map Entry.value).contains column = true
  · obtain ⟨e, he, hvalue⟩ := List.mem_map.1 (List.contains_iff_mem.1 hmapped)
    obtain ⟨h, hh, heq⟩ := List.mem_map.1 (Dict.mem_of_mem_ofEntries he)
    rw [← heq] at hvalue
    dsimp only at hvalue
    exact ⟨h, hh, Or.inl hvalue⟩
  · obtain ⟨h, hh, hnamed⟩ := List.any_eq_true.1 (hfound (Bool.eq_false_iff.2 hmapped))
    simp only [Bool.or_eq_true, decide_eq_true_eq, List.contains_iff_mem] at hnamed
    exact ⟨h, hh, Or.inr hnamed⟩

theorem canonicalOf_of_synonym (hlower : LowersFields py)
    (hstrip : py.unicode.strip header = header) (hc : column ∈ requiredColumns d)
    (hmem : py.lower header ∈ synonymsOf column) (htype : py.lower header ≠ "type") :
    canonicalOf py header = column := by
  rw [canonicalOf_eq hlower hstrip, fieldOf_of_synonym hc hmem htype]
  rfl

theorem canonicalOf_of_type (hlower : LowersFields py) (hstrip : py.unicode.strip header = header)
    (htype : py.lower header = "type") : canonicalOf py header = "mission_type" := by
  rw [canonicalOf_eq hlower hstrip, htype, fieldOf_type]
  rfl

theorem missingColumns_eq_nil {columnMapping : Dict String}
    (hall : ∀ c ∈ requiredColumns d, ∃ h ∈ headers, py.lower h ∈ synonymsOf c) :
    missingColumns py d headers columnMapping = [] := by
  refine List.filter_eq_nil_iff.2 fun c hc hmissing => ?_
  obtain ⟨h, hh, hmem⟩ := hall c hc
  have hnamed : (headers.any fun h => py.lower h = c || (synonymsOf c).contains (py.lower h))
      = true :=
    List.any_eq_true.2 ⟨h, hh, Bool.or_eq_true_iff.2 (Or.inr (List.contains_iff_mem.2 hmem))⟩
  rw [hnamed, Bool.not_true, Bool.and_false] at hmissing
  cases hmissing

theorem canonicalOf_of_accepts (hlower : LowersFields py)
    (hstrip : py.unicode.strip header = header) (hc : column ∈ requiredColumns d)
    (h : Accepts py column header) :
    canonicalOf py header = column ∨
      (column = "aircraft_type" ∧ canonicalOf py header = "mission_type") := by
  have hsynonym : canonicalOf py header = column ∨ py.lower header ∈ synonymsOf column := by
    rcases h with h | h | h
    · exact Or.inl h
    · exact Or.inr (h.symm ▸ mem_synonymsOf_self d column hc)
    · exact Or.inr h
  rcases hsynonym with hmapped | hmem
  · exact Or.inl hmapped
  · by_cases htype : py.lower header = "type"
    · exact Or.inr ⟨eq_aircraft_type_of_type d column hc (htype ▸ hmem),
        canonicalOf_of_type hlower hstrip htype⟩
    · exact Or.inl (canonicalOf_of_synonym hlower hstrip hc hmem htype)

end Mapping

/-! ## The rows of a file -/

/-- A row as `parse_file_content` makes it: its keys are headers, its cells are stripped. -/
structure IsFileRow (py : Interpreter) (headers : List String) (row : Dict String) : Prop where
  keys : ∀ e ∈ row.rows, e.key ∈ headers
  stripped : ∀ e ∈ row.rows, py.unicode.strip e.value = e.value

/-- The cell under a header is not blank. -/
def Filled (py : Interpreter) (row : Dict String) (header : String) : Prop :=
  ∃ text, row.get header = some text ∧ py.unicode.strip text ≠ ""

/-- The row that the validators read. -/
def mappedRow (py : Interpreter) (headers : List String) (row : Dict String) : Dict Cell :=
  applyMapping py (textRow row) (autoMapColumns py headers)

section Rows

variable {py : Interpreter} {headers : List String} {row : Dict String} {header : String}

theorem get_textRow {text : String} (h : row.get header = some text) :
    (textRow row).get header = some (.text text) := by
  have hmem := Dict.get_eq_some.1 h
  refine Dict.get_ofEntries_of_forall ?_ ?_
  · exact ⟨_, List.mem_map_of_mem hmem, rfl⟩
  · intro e he hkey
    obtain ⟨c, hc, rfl⟩ := List.mem_map.1 he
    have hsame : c = ⟨header, text⟩ := Table.eq_of_key_eq hc hmem hkey
    rw [hsame]

theorem rows_textRow (row : Dict String) :
    (textRow row).rows = row.rows.map fun c => ⟨c.key, .text c.value⟩ := by
  refine Dict.rows_ofEntries ?_
  rw [List.map_map]
  exact row.nodup

theorem mem_textRow {e : Entry Cell} (h : e ∈ (textRow row).rows) :
    ∃ c ∈ row.rows, e = ⟨c.key, .text c.value⟩ := by
  rw [rows_textRow] at h
  obtain ⟨c, hc, rfl⟩ := List.mem_map.1 h
  exact ⟨c, hc, rfl⟩

theorem get_mappedRow (hstripped : ∀ h ∈ headers, py.unicode.strip h = h)
    (hinj : (headers.map (canonicalOf py)).Nodup) (hrow : IsFileRow py headers row)
    (hmem : header ∈ headers) {text : String} (h : row.get header = some text) :
    (mappedRow py headers row).get (canonicalOf py header) = some (.text text) := by
  rw [mappedRow, applyMapping]
  refine Dict.get_ofEntries_of_forall ?_ ?_
  · have hcell := Dict.get_eq_some.1 (get_textRow h)
    refine ⟨⟨_, .text text⟩, List.mem_map_of_mem hcell, ?_⟩
    exact targetOf_autoMapColumns hstripped hmem
  · intro e he hkey
    obtain ⟨c, hc, rfl⟩ := List.mem_map.1 he
    obtain ⟨cell, hcell, rfl⟩ := mem_textRow hc
    dsimp only at hkey ⊢
    rw [targetOf_autoMapColumns hstripped (hrow.keys cell hcell)] at hkey
    have hsame : cell.key = header :=
      List.inj_on_of_nodup_map hinj (hrow.keys cell hcell) hmem hkey
    have hvalue : cell = ⟨header, text⟩ :=
      Table.eq_of_key_eq hcell (Dict.get_eq_some.1 h) hsame
    rw [hvalue]

theorem get_mappedRow_of_none (hstripped : ∀ h ∈ headers, py.unicode.strip h = h)
    (hrow : IsFileRow py headers row) {field : String}
    (hnone : field ∉ headers.map (canonicalOf py)) :
    (mappedRow py headers row).get field = none := by
  rw [mappedRow, applyMapping]
  refine Dict.get_ofEntries_of_none fun e he hkey => hnone ?_
  obtain ⟨c, hc, rfl⟩ := List.mem_map.1 he
  obtain ⟨cell, hcell, rfl⟩ := mem_textRow hc
  dsimp only at hkey
  rw [targetOf_autoMapColumns hstripped (hrow.keys cell hcell)] at hkey
  exact hkey ▸ List.mem_map_of_mem (hrow.keys cell hcell)

end Rows

/-! ## What is claimed of the columns -/

/-- The errors of the rows. -/
def RowResults.errorLists : RowResults → List (List String)
  | .aircraft rows => rows.map RowResult.errors
  | .flight rows => rows.map RowResult.errors

/-- The errors that say that a required column is missing, or that its cell is blank. -/
def missingMessages : ImportDomain → List String
  | .aircraft => ["registration is required", "msn is required", "aircraft_type is required"]
  | .drone => ["registration is required"]
  | .flight => ["registration / asset identifier is required", "Invalid flight date format: None",
      "Invalid flight date format: ''"]

/-- The row has a cell that is not blank under every header that the gate takes for a required
column. -/
def FillsRequired (py : Interpreter) (d : ImportDomain) (headers : List String)
    (row : Dict String) : Prop :=
  ∀ h ∈ headers, (∃ c ∈ requiredColumns d, Accepts py c h) → Filled py row h

/-- In a job of the file, no row that fills its required columns is said to lack one. -/
def RequiredFound (py : Interpreter) (domain : String) (d : ImportDomain) (headers : List String) :
    Prop :=
  ∀ (db : Database) (newId : UUID) (now : Nat → PyDateTime) (organizationId : UUID)
    (actorUserId : Option UUID) (filename : String) (file : ParsedFile)
    (columnMapping matchStrategy : Option (Dict String)) (db' : Database) (job : ImportJob),
    headersOf file.rawRows = headers →
    columnMapping.all (fun m => m.rows.isEmpty) = true →
    (∀ m ∈ db.importMappings.rows,
      ¬(m.organizationId = organizationId ∧ m.domain = d.value ∧ m.isDefault = true)) →
    createImportJob py db newId now organizationId actorUserId domain filename file columnMapping
      matchStrategy = .ok (db', job) →
    List.Forall₂ (fun row errors => IsFileRow py headers row → FillsRequired py d headers row →
      ∀ e ∈ errors, e ∉ missingMessages d) file.rawRows (RowResults.errorLists job.rowResults)

/-- A cell that is not blank is in the field of its header. -/
def FilledStay (py : Interpreter) (headers : List String) : Prop :=
  ∀ row, IsFileRow py headers row → ∀ h ∈ headers, Filled py row h →
    ∃ text, (mappedRow py headers row).get (canonicalOf py h) = some (.text text) ∧
      py.unicode.strip text ≠ ""

/-- The gate, the mapping and the validator agree on the headers. -/
structure GateAgrees (py : Interpreter) (domain : String) (d : ImportDomain)
    (headers : List String) : Prop where
  required : RequiredFound py domain d headers
  filled : FilledStay py headers

/-! ## Where the three agree -/

section Errors

theorem append_notMem {first raw : String} {c : Char} {l : List String}
    (hfirst : first.toList.head? = some c) (hl : ∀ s ∈ l, s.toList.head? ≠ some c) :
    first ++ raw ∉ l := fun h => append_ne hfirst (hl _ h) rfl

variable {py : Interpreter}

/-- A row with its three texts is not said to lack one. -/
theorem aircraftErrors_notMem {existing seen : List String} {r : AircraftReading}
    (hregistration : r.registration ≠ "") (hmsn : r.msn ≠ "") (htype : r.aircraftType ≠ "") :
    ∀ e ∈ aircraftErrors py existing seen r, e ∉ missingMessages .aircraft := by
  intro e he
  simp only [aircraftErrors, List.mem_append, mem_noteIf, hregistration, hmsn, htype, false_and,
    false_or] at he
  rcases he with ⟨-, rfl⟩ | ⟨-, rfl⟩
  · rw [String.append_assoc]
    exact append_notMem (c := 'A') (by decide) (by decide)
  · rw [String.append_assoc]
    exact append_notMem (c := 'D') (by decide) (by decide)

theorem matchAsset_errors_notMem {db : Database} {organizationId : UUID} {known : FlightLookups}
    {strategy : Dict String} {registration : String} :
    ∀ e ∈ (matchAsset py db organizationId known strategy registration).errors,
      e ∉ missingMessages .flight := by
  intro e he
  rw [matchAsset] at he
  dsimp only at he
  split at he
  · cases he
  · split at he
    · cases he
    · rw [unknownAsset] at he
      split at he
      · cases he
      · split at he
        · cases he
        · rw [List.mem_singleton.1 he, String.append_assoc]
          exact append_notMem (c := 'A') (by decide) (by decide)

theorem pyRepr_ne {text : String} (h : text ≠ "") : pyRepr text ≠ "None" ∧ pyRepr text ≠ "''" := by
  obtain ⟨quote, hquote, hrepr⟩ : ∃ quote : Char, quote ≠ 'N' ∧ (pyRepr text).toList =
      quote :: (text.toList.flatMap (reprChar quote) ++ [quote]) := by
    rw [pyRepr, String.toList_ofList]
    split
    · exact ⟨_, by decide, rfl⟩
    · exact ⟨_, by decide, rfl⟩
  constructor
  · intro heq
    rw [heq] at hrepr
    exact hquote (List.cons.inj hrepr).1.symm
  · intro heq
    rw [heq] at hrepr
    obtain ⟨c, rest, hcons⟩ := List.exists_cons_of_ne_nil (mt String.toList_eq_nil_iff.1 h)
    have hone : 1 ≤ (reprChar quote c).length := by
      rw [reprChar]
      split_ifs <;> simp only [List.length_cons] <;> omega
    have hlength := congrArg List.length hrepr
    rw [hcons, List.flatMap_cons] at hlength
    simp only [List.length_cons, List.length_append, List.length_nil] at hlength
    have htwo : "''".toList.length = 2 := by decide
    omega

theorem flightErrors_notMem {matched : AssetMatch} {r : FlightReading}
    (hmatched : ∀ e ∈ matched.errors, e ∉ missingMessages .flight)
    (hregistration : r.registration ≠ "") (hraw : r.flownAtRaw ≠ "None" ∧ r.flownAtRaw ≠ "''") :
    ∀ e ∈ flightErrors matched r, e ∉ missingMessages .flight := by
  intro e he
  simp only [flightErrors, List.mem_append, mem_noteIf, hregistration, false_and, false_or] at he
  rcases he with (((he | ⟨-, rfl⟩) | ⟨-, rfl⟩) | ⟨-, rfl⟩) | ⟨-, rfl⟩
  · exact hmatched e he
  · have hnone : "Invalid flight date format: None" = "Invalid flight date format: " ++ "None" := by
      decide
    have hblank : "Invalid flight date format: ''" = "Invalid flight date format: " ++ "''" := by
      decide
    rw [missingMessages, hnone, hblank]
    simp only [List.mem_cons, String.append_right_inj, List.not_mem_nil, or_false, not_or]
    exact ⟨append_ne (c := 'I') (by decide) (by decide), hraw⟩
  · decide
  · decide
  · decide

end Errors

section Sufficient

variable {py : Interpreter} {domain : String} {d : ImportDomain} {headers : List String}

theorem filledStay_of_nodup (hstripped : ∀ h ∈ headers, py.unicode.strip h = h)
    (hinj : (headers.map (canonicalOf py)).Nodup) : FilledStay py headers := by
  rintro row hrow h hh ⟨text, hget, hfilled⟩
  exact ⟨text, get_mappedRow hstripped hinj hrow hh hget, hfilled⟩

variable {row : Dict String} {organizationId : UUID} {db : Database} {number : Nat}

theorem effectiveMapping_eq {columnMapping : Option (Dict String)}
    (hnone : columnMapping.all (fun m => m.rows.isEmpty) = true)
    (hsaved : ∀ m ∈ db.importMappings.rows,
      ¬(m.organizationId = organizationId ∧ m.domain = d.value ∧ m.isDefault = true)) :
    effectiveMapping py db organizationId d headers columnMapping = autoMapColumns py headers := by
  have hgiven : columnMapping.filter (fun m => !m.rows.isEmpty) = none := by
    cases columnMapping with
    | none => rfl
    | some m =>
      rw [Option.filter_some, if_neg]
      simpa using hnone
  have hdefault : (db.importMappings.select fun m => m.organizationId = organizationId &&
      m.domain = d.value && m.isDefault) = [] := by
    refine List.filter_eq_nil_iff.2 fun m hm hp => hsaved m hm ?_
    simpa [and_assoc] using hp
  rw [effectiveMapping, hgiven, hdefault]
  rfl

theorem stripped_mappedRow {column : String} (hlower : LowersFields py)
    (hstripped : ∀ h ∈ headers, py.unicode.strip h = h)
    (hinj : (headers.map (canonicalOf py)).Nodup)
    (hgate : missingColumns py d headers (autoMapColumns py headers) = [])
    (hrow : IsFileRow py headers row) (hfills : FillsRequired py d headers row)
    (hc : column ∈ requiredColumns d)
    (hmapped : column = "aircraft_type" → column ∈ headers.map (canonicalOf py)) :
    ∃ text, (mappedRow py headers row).get column = some (.text text) ∧
      py.unicode.strip text ≠ "" := by
  have hheader : ∃ h ∈ headers, canonicalOf py h = column := by
    obtain ⟨h, hh, haccepts⟩ := exists_accepts hgate hc
    rcases canonicalOf_of_accepts hlower (hstripped h hh) hc haccepts with hsame | ⟨htype, -⟩
    · exact ⟨h, hh, hsame⟩
    · exact List.mem_map.1 (hmapped htype)
  obtain ⟨h, hh, rfl⟩ := hheader
  exact filledStay_of_nodup hstripped hinj row hrow h hh (hfills h hh ⟨_, hc, Or.inl rfl⟩)

theorem aircraft_found {existing seen seen' : List String} {r : RowResult AircraftData}
    (hfound : ∀ column ∈ requiredColumns .aircraft, ∃ text,
      (mappedRow py headers row).get column = some (.text text) ∧ py.unicode.strip text ≠ "")
    (h : validateAircraftRow py existing (autoMapColumns py headers) seen number (textRow row)
      = .ok (r, seen')) :
    ∀ e ∈ r.errors, e ∉ missingMessages .aircraft := by
  obtain ⟨reading, hread, h⟩ := bind_eq_ok.1 h
  cases h
  obtain ⟨registration, hget₁, hfilled₁⟩ := hfound "registration" (by decide)
  obtain ⟨msn, hget₂, hfilled₂⟩ := hfound "msn" (by decide)
  obtain ⟨aircraftType, hget₃, hfilled₃⟩ := hfound "aircraft_type" (by decide)
  rw [mappedRow] at hget₁ hget₂ hget₃
  have hne : aircraftType ≠ "" := by
    rintro rfl
    exact hfilled₃ rfl
  have htruthy : firstTruthy (some (.text aircraftType))
      ((applyMapping py (textRow row) (autoMapColumns py headers)).get "model")
        = some (.text aircraftType) := if_pos (decide_eq_true hne)
  obtain ⟨_, hregistration, hread⟩ := bind_eq_ok.1 hread
  obtain ⟨_, hmsn, hread⟩ := bind_eq_ok.1 hread
  obtain ⟨_, htype, hread⟩ := bind_eq_ok.1 hread
  obtain ⟨_, -, hread⟩ := bind_eq_ok.1 hread
  rw [hget₁] at hregistration
  rw [hget₂] at hmsn
  rw [hget₃, htruthy] at htype
  cases hregistration
  cases hmsn
  cases htype
  cases hread
  exact aircraftErrors_notMem hfilled₁ hfilled₂ hfilled₃

theorem flownAtRaw_of_readFlight {row : Dict Cell} {r : FlightReading}
    (h : readFlight py row = .ok r) : r.flownAtRaw = reprGiven (row.get "flown_at") := by
  obtain ⟨_, -, h⟩ := bind_eq_ok.1 h
  obtain ⟨_, -, h⟩ := bind_eq_ok.1 h
  obtain ⟨_, -, h⟩ := bind_eq_ok.1 h
  obtain ⟨_, -, h⟩ := bind_eq_ok.1 h
  obtain ⟨_, -, h⟩ := bind_eq_ok.1 h
  obtain ⟨_, -, h⟩ := bind_eq_ok.1 h
  obtain ⟨_, -, h⟩ := bind_eq_ok.1 h
  obtain ⟨_, -, h⟩ := bind_eq_ok.1 h
  obtain ⟨_, -, h⟩ := bind_eq_ok.1 h
  obtain ⟨_, -, h⟩ := bind_eq_ok.1 h
  cases h
  rfl

theorem flight_found {known : FlightLookups} {strategy : Dict String} {now : Nat → PyDateTime}
    {seen seen' : List String} {r : RowResult FlightData}
    (hfound : ∀ column ∈ requiredColumns .flight, ∃ text,
      (mappedRow py headers row).get column = some (.text text) ∧ py.unicode.strip text ≠ "")
    (h : validateFlightRow py db organizationId known (autoMapColumns py headers) strategy now seen
      number (textRow row) = .ok (r, seen')) :
    ∀ e ∈ r.errors, e ∉ missingMessages .flight := by
  obtain ⟨reading, hread, h⟩ := bind_eq_ok.1 h
  obtain ⟨result, hjudge, h⟩ := bind_eq_ok.1 h
  obtain ⟨long, -, rfl⟩ := (judgeFlight_eq_ok py).1 hjudge
  cases h
  obtain ⟨registration, hget₁, hfilled₁⟩ := hfound "registration" (by decide)
  obtain ⟨flownAt, hget₂, hfilled₂⟩ := hfound "flown_at" (by decide)
  have hne : flownAt ≠ "" := by
    rintro rfl
    exact hfilled₂ rfl
  have hregistration : reading.registration = py.unicode.strip registration := by
    have hreads := (readsFlight_of_readFlight hread).registration
    rw [mappedRow] at hget₁
    rw [hget₁] at hreads
    exact (Except.ok.inj hreads).symm
  have hraw : reading.flownAtRaw = pyRepr flownAt := by
    rw [flownAtRaw_of_readFlight hread]
    rw [mappedRow] at hget₂
    rw [hget₂]
    rfl
  refine flightErrors_notMem matchAsset_errors_notMem ?_ ?_
  · exact hregistration ▸ hfilled₁
  · exact hraw ▸ pyRepr_ne hne

theorem requiredFound_of_nodup (hdomain : ImportDomain.ofText? (py.upper domain) = some d)
    (hlower : LowersFields py) (hstripped : ∀ h ∈ headers, py.unicode.strip h = h)
    (hgate : missingColumns py d headers (autoMapColumns py headers) = [])
    (hinj : (headers.map (canonicalOf py)).Nodup)
    (htype : d = .aircraft → "aircraft_type" ∈ headers.map (canonicalOf py)) :
    RequiredFound py domain d headers := by
  intro db newId now organizationId actorUserId filename file columnMapping matchStrategy db' job
    hheaders hnone hsaved hcreate
  obtain ⟨d', hd', hcreates⟩ := createImportJob_eq_ok.1 hcreate
  obtain rfl : d = d' := Option.some_inj.1 (hdomain.symm.trans hd')
  have hresults := hcreates.rows
  rw [hheaders, effectiveMapping_eq hnone hsaved] at hresults
  cases d with
  | drone => cases hresults
  | aircraft =>
    obtain ⟨results, hresults, heq⟩ := map_eq_ok.1 hresults
    rw [← heq]
    have hall := forall₂_of_validateRows (R := fun textual r => ∀ row, textRow row = textual →
      IsFileRow py headers row → FillsRequired py .aircraft headers row →
        ∀ e ∈ r.errors, e ∉ missingMessages .aircraft) ?_ _ _ _ hresults
    · refine List.forall₂_map_right_iff.2 ((List.forall₂_map_left_iff.1 hall).imp ?_)
      intro row r h
      exact h row rfl
    · rintro seen number _ r seen' hrow row rfl hfile hfills
      refine aircraft_found (fun column hc => ?_) hrow
      exact stripped_mappedRow hlower hstripped hinj hgate hfile hfills hc fun h => h ▸ htype rfl
  | flight =>
    obtain ⟨results, hresults, heq⟩ := map_eq_ok.1 hresults
    rw [← heq]
    obtain ⟨known, -, hresults⟩ := bind_eq_ok.1 hresults
    have hall := forall₂_of_validateRows (R := fun textual r => ∀ row, textRow row = textual →
      IsFileRow py headers row → FillsRequired py .flight headers row →
        ∀ e ∈ r.errors, e ∉ missingMessages .flight) ?_ _ _ _ hresults
    · refine List.forall₂_map_right_iff.2 ((List.forall₂_map_left_iff.1 hall).imp ?_)
      intro row r h
      exact h row rfl
    · rintro seen number _ r seen' hrow row rfl hfile hfills
      refine flight_found (fun column hc => ?_) hrow
      refine stripped_mappedRow hlower hstripped hinj hgate hfile hfills hc fun h => ?_
      exact absurd (h ▸ hc) (by decide)

end Sufficient

/-! ## Where they do not -/

section Necessary

variable {py : Interpreter} {domain : String} {headers : List String}

/-- A row of a file with the letter x under some of the headers, and nothing under the others. -/
def sampleRow (headers : List String) (hnodup : headers.Nodup) (filled : String → Bool) :
    Dict String where
  rows := headers.map fun h => ⟨h, if filled h then "x" else ""⟩
  nodup := by
    rw [List.map_map]
    exact hnodup.map_on fun _ _ _ _ h => h

variable {hnodup : headers.Nodup} {filled : String → Bool}

theorem keys_sampleRow (headers : List String) (hnodup : headers.Nodup) (filled : String → Bool) :
    (sampleRow headers hnodup filled).rows.map Entry.key = headers := by
  rw [sampleRow, List.map_map]
  exact List.map_id headers

variable {header : String}

theorem get_sampleRow (h : header ∈ headers) :
    (sampleRow headers hnodup filled).get header = some (if filled header then "x" else "") :=
  Dict.get_eq_some.2 (List.mem_map.2 ⟨header, h, rfl⟩)

theorem strip_x (hletter : py.unicode.isSpace 'x' = false) : py.unicode.strip "x" = "x" := by
  rw [UnicodeTables.strip, UnicodeTables.stripText]
  simp [hletter]

theorem isFileRow_sampleRow (hletter : py.unicode.isSpace 'x' = false) :
    IsFileRow py headers (sampleRow headers hnodup filled) where
  keys := by
    intro e he
    obtain ⟨h, hh, rfl⟩ := List.mem_map.1 he
    exact hh
  stripped := by
    intro e he
    obtain ⟨h, -, rfl⟩ := List.mem_map.1 he
    dsimp only
    split
    · exact strip_x hletter
    · rfl

theorem filled_sampleRow (hletter : py.unicode.isSpace 'x' = false) (h : header ∈ headers)
    (hfilled : filled header = true) :
    Filled py (sampleRow headers hnodup filled) header := by
  refine ⟨_, get_sampleRow h, ?_⟩
  rw [if_pos hfilled, strip_x hletter]
  decide

theorem get_mappedRow_sampleRow (field : String) :
    (mappedRow py headers (sampleRow headers hnodup filled)).get field =
      (headers.reverse.find? fun h => targetOf py (autoMapColumns py headers) h = field).map
        fun h => .text (if filled h then "x" else "") := by
  rw [mappedRow, applyMapping, Dict.get_ofEntries, rows_textRow, sampleRow, List.map_map,
    List.map_map, ← List.map_reverse, List.find?_map, Option.map_map]
  rfl

theorem find_eq_of_filledStay (hletter : py.unicode.isSpace 'x' = false) (hnodup : headers.Nodup)
    (hstay : FilledStay py headers) (h : header ∈ headers) :
    (headers.reverse.find? fun g =>
      targetOf py (autoMapColumns py headers) g = canonicalOf py header) = some header := by
  obtain ⟨text, hget, hne⟩ := hstay (sampleRow headers hnodup (· = header))
    (isFileRow_sampleRow hletter) header h (filled_sampleRow hletter h (decide_eq_true rfl))
  rw [get_mappedRow_sampleRow, Option.map_eq_some_iff] at hget
  obtain ⟨last, hlast, htext⟩ := hget
  by_cases hsame : last = header
  · rw [hlast, hsame]
  · rw [if_neg (by simpa using hsame)] at htext
    cases htext
    exact absurd rfl hne

theorem nodup_of_filledStay (hletter : py.unicode.isSpace 'x' = false) (hnodup : headers.Nodup)
    (hstay : FilledStay py headers) : (headers.map (canonicalOf py)).Nodup := by
  refine hnodup.map_on fun g hg k hk hsame => ?_
  have hfound := find_eq_of_filledStay hletter hnodup hstay hg
  rw [hsame, find_eq_of_filledStay hletter hnodup hstay hk] at hfound
  exact (Option.some.inj hfound).symm

/-- The headers that are filled where only the model of an aircraft is left out. -/
def notModel (py : Interpreter) (header : String) : Bool := canonicalOf py header ≠ "model"

theorem fillsRequired_notModel (hlower : LowersFields py) (hletter : py.unicode.isSpace 'x' = false)
    (hstripped : ∀ h ∈ headers, py.unicode.strip h = h) :
    FillsRequired py .aircraft headers (sampleRow headers hnodup (notModel py)) := by
  rintro h hh ⟨c, hc, haccepts⟩
  refine filled_sampleRow hletter hh (decide_eq_true ?_)
  rcases canonicalOf_of_accepts hlower (hstripped h hh) hc haccepts with hsame | ⟨-, hsame⟩
  · rintro hmodel
    exact absurd (hmodel ▸ hsame ▸ hc) (by decide)
  · rw [hsame]
    decide

theorem stripped_type_notModel (hnodup : headers.Nodup)
    (hstripped : ∀ h ∈ headers, py.unicode.strip h = h) (hletter : py.unicode.isSpace 'x' = false)
    (hnone : "aircraft_type" ∉ headers.map (canonicalOf py)) :
    let row := mappedRow py headers (sampleRow headers hnodup (notModel py))
    py.stripped (firstTruthy (row.get "aircraft_type") (row.get "model")) = .ok "" := by
  intro row
  have htype : row.get "aircraft_type" = none :=
    get_mappedRow_of_none hstripped (isFileRow_sampleRow hletter) hnone
  rw [htype, firstTruthy, Option.any_none, if_neg (by decide), get_mappedRow_sampleRow]
  cases hlast : headers.reverse.find? fun h =>
      targetOf py (autoMapColumns py headers) h = "model" with
  | none => rfl
  | some last =>
    have hmem : last ∈ headers := List.mem_reverse.1 (List.mem_of_find?_eq_some hlast)
    have hmodel : canonicalOf py last = "model" := by
      have htarget := List.find?_some hlast
      rw [decide_eq_true_eq] at htarget
      rw [← targetOf_autoMapColumns hstripped hmem, htarget]
    rw [Option.map_some, notModel, hmodel]
    rfl

theorem exists_typeMissing (hnodup : headers.Nodup)
    (hstripped : ∀ h ∈ headers, py.unicode.strip h = h) (hletter : py.unicode.isSpace 'x' = false)
    (hnone : "aircraft_type" ∉ headers.map (canonicalOf py)) (existing seen : List String)
    (number : Nat) :
    ∃ r seen', validateAircraftRow py existing (autoMapColumns py headers) seen number
        (textRow (sampleRow headers hnodup (notModel py))) = .ok (r, seen') ∧
      "aircraft_type is required" ∈ r.errors := by
  obtain ⟨reading, hread⟩ : ∃ r, readAircraft py
      (mappedRow py headers (sampleRow headers hnodup (notModel py))) = .ok r :=
    exists_readAircraft ((isText_textRow _).applyMapping (autoMapColumns py headers))
  rw [mappedRow] at hread
  refine ⟨_, _, by rw [validateAircraftRow, hread]; rfl, ?_⟩
  have hempty : reading.aircraftType = "" := by
    obtain ⟨_, -, hread⟩ := bind_eq_ok.1 hread
    obtain ⟨_, -, hread⟩ := bind_eq_ok.1 hread
    obtain ⟨_, htype, hread⟩ := bind_eq_ok.1 hread
    obtain ⟨_, -, hread⟩ := bind_eq_ok.1 hread
    have hblank := stripped_type_notModel hnodup hstripped hletter hnone
    rw [mappedRow] at hblank
    dsimp only at hblank
    rw [hblank] at htype
    cases htype
    cases hread
    rfl
  rw [judgeAircraft, aircraftErrors]
  simp only [List.mem_append, mem_noteIf]
  exact Or.inl (Or.inl (Or.inr ⟨hempty, trivial⟩))

theorem mem_of_requiredFound {d : ImportDomain}
    (hdomain : ImportDomain.ofText? (py.upper domain) = some d) (hlower : LowersFields py)
    (hletter : py.unicode.isSpace 'x' = false) (hnodup : headers.Nodup)
    (hstripped : ∀ h ∈ headers, py.unicode.strip h = h)
    (hgate : missingColumns py d headers (autoMapColumns py headers) = [])
    (hrequired : RequiredFound py domain d headers) (haircraft : d = .aircraft) :
    "aircraft_type" ∈ headers.map (canonicalOf py) := by
  subst haircraft
  by_contra hnone
  let row := sampleRow headers hnodup (notModel py)
  let file : ParsedFile := ⟨[row], [], "", ""⟩
  have hheaders : headersOf file.rawRows = headers := keys_sampleRow headers hnodup _
  obtain ⟨r, seen', hrow, hmissing⟩ := exists_typeMissing hnodup hstripped hletter hnone
    (existingRegistrations py {} 0) [] 1
  have hmapping : effectiveMapping py {} 0 .aircraft (headersOf file.rawRows) none
      = autoMapColumns py headers := by
    rw [hheaders]
    exact effectiveMapping_eq rfl fun m hm => (nomatch hm)
  have hresults : validateDomain py {} 0 (fun _ => ⟨0, none⟩) .aircraft
      (file.rawRows.map textRow) (autoMapColumns py headers) Table.empty
        = .ok (.aircraft [r]) := by
    have hrows : validateAircraftRows py {} 0 [textRow row] (autoMapColumns py headers)
        = .ok [r] := by
      rw [validateAircraftRows, validateRows, hrow]
      rfl
    rw [validateDomain]
    exact congrArg (Except.map RowResults.aircraft) hrows
  let job := newImportJob 0 0 none "" file (autoMapColumns py headers) Table.empty (.aircraft [r])
  have hnames : ¬(255 < "".length ∨ 255 < "".length) := by decide
  have hcreates : Creates py {} 0 0 (fun _ => ⟨0, none⟩) none "" file (autoMapColumns py headers)
      Table.empty .aircraft { importJobs := ⟨[job], List.nodup_singleton _⟩ } job :=
    { columns := fun _ => by rw [hheaders]; exact hgate
      names := hnames
      rows := hresults
      row := rfl
      stored := ⟨_, rfl, rfl⟩ }
  rw [← hmapping] at hcreates
  have hall := hrequired {} 0 (fun _ => ⟨0, none⟩) 0 none "" file none none _ _ hheaders rfl
    (fun m hm => (nomatch hm)) (createImportJob_eq_ok.2 ⟨.aircraft, hdomain, hcreates⟩)
  cases hall with
  | cons hfirst _ =>
    exact hfirst (isFileRow_sampleRow hletter) (fillsRequired_notModel hlower hletter hstripped) _
      hmissing (by decide)

end Necessary

/-! ## Where the three readings agree -/

/-- The three agree exactly where no two headers are mapped to one field and, for aircraft, one of
them is mapped to the type. -/
theorem gate_agrees_iff (py : Interpreter) (domain : String) (d : ImportDomain)
    (headers : List String) (hdomain : ImportDomain.ofText? (py.upper domain) = some d)
    (hlower : LowersFields py) (hletter : py.unicode.isSpace 'x' = false)
    (hnodup : headers.Nodup) (hstripped : ∀ h ∈ headers, py.unicode.strip h = h)
    (hgate : missingColumns py d headers (autoMapColumns py headers) = []) :
    GateAgrees py domain d headers ↔
      (headers.map (canonicalOf py)).Nodup ∧
        (d = .aircraft → "aircraft_type" ∈ headers.map (canonicalOf py)) := by
  constructor
  · intro h
    exact ⟨nodup_of_filledStay hletter hnodup h.filled,
      mem_of_requiredFound hdomain hlower hletter hnodup hstripped hgate h.required⟩
  · rintro ⟨hinj, htype⟩
    exact ⟨requiredFound_of_nodup hdomain hlower hstripped hgate hinj htype,
      filledStay_of_nodup hstripped hinj⟩

theorem lower_ascii {s : String} (h : s.toList.map Char.toLower = s.toList) :
    Interpreter.ascii.lower s = s := by
  have hmap : Interpreter.ascii.lower s = String.ofList (s.toList.map Char.toLower) :=
    String.map_eq_internal
  rw [hmap, h, String.ofList_toList]

theorem lowersFields_ascii : LowersFields .ascii := by
  have hlowered : ∀ field ∈ canonicalSynonyms,
      field.1.toList.map Char.toLower = field.1.toList := by
    decide
  exact fun field hfield => lower_ascii (hlowered field hfield)

theorem canonicalOf_lowered {d : ImportDomain} {c s : String}
    (hlower : s.toList.map Char.toLower = s.toList)
    (hstrip : Interpreter.ascii.unicode.strip s = s) (hc : c ∈ requiredColumns d)
    (hmem : s ∈ synonymsOf c) (htype : s ≠ "type") : canonicalOf .ascii s = c := by
  refine canonicalOf_of_synonym lowersFields_ascii hstrip hc ?_ ?_
  · rwa [lower_ascii hlower]
  · rwa [lower_ascii hlower]

theorem missingColumns_lowered {d : ImportDomain} {headers : List String} {mapping : Dict String}
    (hall : ∀ c ∈ requiredColumns d, ∃ h ∈ headers,
      h.toList.map Char.toLower = h.toList ∧ h ∈ synonymsOf c) :
    missingColumns .ascii d headers mapping = [] := by
  refine missingColumns_eq_nil fun c hc => ?_
  obtain ⟨h, hh, hlower, hmem⟩ := hall c hc
  exact ⟨h, hh, (lower_ascii hlower).symm ▸ hmem⟩

theorem canonicalOf_required : ∀ c ∈ requiredColumns .aircraft, canonicalOf .ascii c = c := by
  intro c hc
  have hown : ∀ c ∈ requiredColumns .aircraft, Interpreter.ascii.unicode.strip c = c ∧
      c.toList.map Char.toLower = c.toList ∧ c ∈ synonymsOf c ∧ c ≠ "type" := by
    decide
  obtain ⟨hstrip, hlower, hmem, htype⟩ := hown c hc
  exact canonicalOf_lowered hlower hstrip hc hmem htype

theorem canonicalOf_reg : canonicalOf .ascii "reg" = "registration" :=
  canonicalOf_lowered (d := .aircraft) (by decide) (by decide) (by decide) (by decide) (by decide)

theorem canonicalOf_type : canonicalOf .ascii "type" = "mission_type" :=
  canonicalOf_of_type lowersFields_ascii (by decide) (lower_ascii (by decide))

/-- The required columns of aircraft, each under its own name. -/
theorem own_names_agree :
    GateAgrees .ascii "aircraft" .aircraft (requiredColumns .aircraft) := by
  refine (gate_agrees_iff .ascii "aircraft" .aircraft (requiredColumns .aircraft)
    (by decide) lowersFields_ascii (by decide) (by decide)
    (by decide) (missingColumns_lowered (by decide))).2 ?_
  rw [List.map_congr_left canonicalOf_required, List.map_id']
  exact ⟨by decide, fun _ => by decide⟩

/-- The gate takes `type` for the type of aircraft, the mapping takes it for the type of mission. -/
def typeHeaders : List String := ["registration", "msn", "type"]

/-- Both `registration` and `reg` are mapped to the registration, and the later one counts. -/
def twoRegistrations : List String := ["registration", "reg", "msn", "aircraft_type"]

/-- Headers that pass the gate, whose rows lack a required column or lose a cell. -/
theorem type_and_reg_disagree :
    (missingColumns .ascii .aircraft typeHeaders (autoMapColumns .ascii typeHeaders) = [] ∧
      ¬RequiredFound .ascii "aircraft" .aircraft typeHeaders) ∧
    (missingColumns .ascii .aircraft twoRegistrations (autoMapColumns .ascii twoRegistrations)
        = [] ∧
      ¬FilledStay .ascii twoRegistrations) := by
  have hgate : missingColumns .ascii .aircraft typeHeaders (autoMapColumns .ascii typeHeaders)
      = [] := missingColumns_lowered (by decide)
  refine ⟨⟨hgate, fun h => ?_⟩, missingColumns_lowered (by decide), fun h => ?_⟩
  · have hmem := mem_of_requiredFound (by decide) lowersFields_ascii (by decide)
      (by decide) (by decide) hgate h rfl
    rw [typeHeaders, List.map_cons, List.map_cons, List.map_singleton,
      canonicalOf_required _ (by decide), canonicalOf_required _ (by decide),
      canonicalOf_type] at hmem
    exact absurd hmem (by decide)
  · have hnodup := nodup_of_filledStay (by decide) (by decide) h
    rw [twoRegistrations, List.map_cons, List.map_cons,
      canonicalOf_required _ (by decide), canonicalOf_reg] at hnodup
    exact absurd List.mem_cons_self (List.nodup_cons.1 hnodup).1

end ImportService
end AeroComply
