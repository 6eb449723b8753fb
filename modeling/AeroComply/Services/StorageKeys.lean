import AeroComply.Core.Text
import AeroComply.Lib.Positional
import AeroComply.Lib.Strings
import Mathlib.Tactic.IntervalCases

/-!
# StorageKeys — tenant-safe object keys

`app/services/storage/keys.py`: a filename is cut down to one path segment that is safe, and the key
of an object is made of its namespace, three identifiers and that segment.

What `unicodedata.normalize` makes of a filename is a parameter (`nfc`): nothing is assumed of it.
The identifiers are written out as `uuid.UUID` does it, so that a key can be read back
(`recoverKey_buildObjectKey`).
-/

namespace AeroComply

namespace StorageKeys

/-! ## A filename -/

def maxFilenameLength : Nat := 200

def defaultFallbackFilename : String := "file"

/-- `_CONTROL_CHARS_RE`: U+0000 to U+001F, and U+007F. -/
def isControl (c : Char) : Bool := c.toNat ≤ 31 || c.toNat = 127

def backslash : Char := Char.ofNat 92

/-- The last path segment, whichever of the separators is used. -/
def lastSegment (name : List Char) : List Char :=
  (((name.map fun c => if c = backslash then '/' else c).splitOn '/').getLast?).getD []

/-- A name that is too long is cut, and keeps a short extension. -/
def truncated (name : List Char) : List Char :=
  if maxFilenameLength < name.length then
    let (base, dot, ext) := Strings.rpartition '.' name
    if dot ≠ [] ∧ base ≠ [] ∧ 0 < ext.length ∧ ext.length ≤ 20 then
      let keep : Int := maxFilenameLength - ext.length - 1
      if 0 < keep then base.take keep.toNat ++ ['.'] ++ ext else name.take maxFilenameLength
    else name.take maxFilenameLength
  else name

def sanitizeFilename (u : UnicodeTables) (nfc : String → String) (filename : String)
    (fallback : String := defaultFallbackFilename) : String :=
  if filename = "" then fallback
  else
    let name := (nfc filename).toList.filter fun c => !isControl c
    let name := Strings.strip (· = '.') (u.stripText (lastSegment name))
    if name = [] ∨ name = ['.'] ∨ name = ['.', '.'] then fallback
    else
      let name := truncated name
      if name = [] then fallback else String.ofList name

/-! ## A key -/

/-- `uuid.UUID`. -/
abbrev Uuid := BitVec 128

/-- The digits of `'%032x'`. -/
def hex (id : Uuid) : List Char := (Positional.numeral 16 32 id.toNat).map Nat.digitChar

/-- `str(id)`. -/
def uuidText (id : Uuid) : List Char :=
  ['-'].intercalate [(hex id).take 8, ((hex id).drop 8).take 4, ((hex id).drop 12).take 4,
    ((hex id).drop 16).take 4, (hex id).drop 20]

/-- What `build_object_key` raises. -/
structure ValueError where
  message : String
  deriving DecidableEq

/-- The characters of `_NAMESPACE_RE`. -/
def isNamespaceChar (c : Char) : Bool :=
  ('a' ≤ c && c ≤ 'z') || ('0' ≤ c && c ≤ '9') || c = '_' || c = '-'

/-- `_NAMESPACE_RE.fullmatch`. -/
def isNamespace (ns : String) : Bool := !ns.isEmpty && ns.toList.all isNamespaceChar

def buildObjectKey (u : UnicodeTables) (nfc : String → String) (ns : String)
    (organizationId resourceId fileId : Uuid) (filename : String) : Except ValueError String :=
  if isNamespace ns then
    let safeFilename := sanitizeFilename u nfc filename
    .ok (String.ofList (ns.toList ++ ['/'] ++ uuidText organizationId ++ ['/']
      ++ uuidText resourceId ++ ['/'] ++ uuidText fileId ++ ['_'] ++ safeFilename.toList))
  else
    .error ⟨"namespace must match " ++ pyRepr "^[a-z0-9_-]+$" ++ " (got " ++ pyRepr ns ++ ")"⟩

/-! ## What is left of a filename -/

section Filenames

variable {name : List Char} {c : Char}

theorem mem_lastSegment (h : c ∈ lastSegment name) : c ∈ name ∧ c ≠ '/' ∧ c ≠ backslash := by
  rw [lastSegment, List.splitOn_eq_splitOnP] at h
  cases hlast : ((name.map fun c => if c = backslash then '/' else c).splitOnP
      (· == '/')).getLast? with
  | none =>
    rw [hlast] at h
    cases h
  | some piece =>
    rw [hlast, Option.getD_some] at h
    obtain ⟨hmem, hslash⟩ := Strings.mem_of_mem_splitOnP (List.mem_of_getLast? hlast) h
    have hne : c ≠ '/' := by simpa using hslash
    obtain ⟨c', hc', hmapped⟩ := List.mem_map.1 hmem
    -- what has become a slash is not in the piece
    by_cases hb : c' = backslash
    · rw [if_pos hb] at hmapped
      exact absurd hmapped.symm hne
    · rw [if_neg hb] at hmapped
      exact ⟨hmapped ▸ hc', hne, hmapped ▸ hb⟩

/-- What a cut name keeps: the beginning, and no more than the longest that is allowed. -/
structure CutOf (name cut : List Char) : Prop where
  subset : ∀ c ∈ cut, c ∈ name
  short : cut.length ≤ maxFilenameLength
  head : cut.head? = name.head?

theorem cutOf_take (name : List Char) : CutOf name (name.take maxFilenameLength) where
  subset _ hc := List.mem_of_mem_take hc
  short := List.length_take_le _ _
  head := by
    rw [List.head?_take, if_neg (by decide)]

theorem cutOf_base {base ext : List Char} {k : Nat} (hspec : base ++ ['.'] ++ ext = name)
    (hbase : base ≠ []) (hpos : 0 < k) (hfits : k + 1 + ext.length ≤ maxFilenameLength) :
    CutOf name (base.take k ++ ['.'] ++ ext) where
  subset c hc := by
    rw [← hspec]
    rcases List.mem_append.1 hc with hc | hc
    · rcases List.mem_append.1 hc with hc | hc
      · exact List.mem_append_left _ (List.mem_append_left _ (List.mem_of_mem_take hc))
      · exact List.mem_append_left _ (List.mem_append_right _ hc)
    · exact List.mem_append_right _ hc
  short := by
    have htake : (base.take k).length ≤ k := List.length_take_le k base
    rw [List.length_append, List.length_append, List.length_singleton]
    omega
  head := by
    rw [← hspec]
    cases base with
    | nil => exact absurd rfl hbase
    | cons b base =>
      obtain ⟨k, rfl⟩ := Nat.exists_eq_succ_of_ne_zero hpos.ne'
      rfl

/-- **TRUNCATION**: a name is cut to what is allowed, in front of its extension. -/
theorem cutOf_truncated (name : List Char) : CutOf name (truncated name) := by
  rw [truncated]
  split
  · have hspec := Strings.rpartition_spec '.' name
    have hsep : (Strings.rpartition '.' name).2.1 ≠ [] →
        (Strings.rpartition '.' name).2.1 = ['.'] := Strings.rpartition_sep
    cases hparts : Strings.rpartition '.' name with
    | mk base rest =>
      obtain ⟨dot, ext⟩ := rest
      rw [hparts] at hspec hsep
      dsimp only at hspec hsep ⊢
      split
      · next hext =>
        obtain ⟨hdot, hbase, hpos, hshort⟩ := hext
        rw [hsep hdot] at hspec
        have hkeep : (maxFilenameLength : Int) - ext.length - 1
            = ((maxFilenameLength - ext.length - 1 : Nat) : Int) := by
          rw [maxFilenameLength]
          omega
        split
        · rw [hkeep, Int.toNat_natCast]
          refine cutOf_base hspec hbase ?_ ?_
          · rw [maxFilenameLength]
            omega
          · rw [maxFilenameLength]
            omega
        · exact cutOf_take name
      · exact cutOf_take name
  · next hfits => exact ⟨fun _ hc => hc, not_lt.1 hfits, rfl⟩

/-- **A SAFE SEGMENT** of a path. -/
structure SafeSegment (segment : String) : Prop where
  nonempty : segment ≠ ""
  short : segment.length ≤ maxFilenameLength
  noSlash : '/' ∉ segment.toList
  noBackslash : backslash ∉ segment.toList
  noControl : ∀ c ∈ segment.toList, isControl c = false
  notDot : segment ≠ "."
  notDotDot : segment ≠ ".."

theorem safeSegment_default : SafeSegment defaultFallbackFilename := by
  have hall : defaultFallbackFilename.toList.all (fun c => !isControl c) = true := by decide
  refine ⟨?_, ?_, ?_, ?_, fun c hc => ?_, ?_, ?_⟩
  case refine_5 => simpa using List.all_eq_true.1 hall c hc
  all_goals decide

theorem safeSegment_ofList (hne : name ≠ []) (hshort : name.length ≤ maxFilenameLength)
    (hsafe : ∀ c ∈ name, c ≠ '/' ∧ c ≠ backslash ∧ isControl c = false)
    (hdot : name.head? ≠ some '.') : SafeSegment (String.ofList name) where
  nonempty h := hne (by simpa using congrArg String.toList h)
  short := by rwa [String.length_ofList]
  noSlash h := by
    rw [String.toList_ofList] at h
    exact (hsafe _ h).1 rfl
  noBackslash h := by
    rw [String.toList_ofList] at h
    exact (hsafe _ h).2.1 rfl
  noControl c h := by
    rw [String.toList_ofList] at h
    exact (hsafe c h).2.2
  notDot h := by
    have hname : name = ['.'] := by simpa using congrArg String.toList h
    exact hdot (hname ▸ rfl)
  notDotDot h := by
    have hname : name = ['.', '.'] := by simpa using congrArg String.toList h
    exact hdot (hname ▸ rfl)

/-- **EVERY FILENAME** becomes a safe segment. -/
theorem safeSegment_sanitizeFilename (u : UnicodeTables) (nfc : String → String)
    (filename : String) : SafeSegment (sanitizeFilename u nfc filename) := by
  rw [sanitizeFilename]
  split
  · exact safeSegment_default
  · dsimp only
    generalize hname : Strings.strip (· = '.') (u.stripText (lastSegment
      ((nfc filename).toList.filter fun c => !isControl c))) = name
    split
    · exact safeSegment_default
    · next hkept =>
      rw [not_or] at hkept
      have hcut := cutOf_truncated name
      split
      · exact safeSegment_default
      · next hne =>
        refine safeSegment_ofList hne hcut.short (fun c hc => ?_) ?_
        · have hc := hcut.subset c hc
          rw [← hname] at hc
          obtain ⟨hmem, hslash, hbackslash⟩ :=
            mem_lastSegment (Strings.mem_of_mem_strip (Strings.mem_of_mem_strip hc))
          exact ⟨hslash, hbackslash, by simpa using (List.mem_filter.1 hmem).2⟩
        · rw [hcut.head]
          intro hdot
          rw [← hname] at hdot
          exact absurd (Strings.head_strip hdot) (by decide)

end Filenames

/-! ## A key, read back -/

/-- The value of a hexadecimal digit. -/
def hexValue (c : Char) : Nat := if c.isDigit then c.toNat - 48 else c.toNat - 87

/-- The identifier of a text. -/
def readUuid (text : List Char) : Uuid :=
  BitVec.ofNat 128 (Positional.value 16 ((text.filter (· ≠ '-')).map hexValue))

/-- The four parts of a key, without the filename. -/
def recoverKey (key : String) : Option (String × Uuid × Uuid × Uuid) :=
  match key.toList.splitOn '/' with
  | [ns, organizationId, resourceId, file] =>
    some (String.ofList ns, readUuid organizationId, readUuid resourceId, readUuid (file.take 36))
  | _ => none

section Keys

theorem hexValue_digitChar {d : Nat} (h : d < 16) : hexValue (Nat.digitChar d) = d := by
  interval_cases d
  all_goals decide

theorem digitChar_ne {d : Nat} (h : d < 16) :
    Nat.digitChar d ≠ '/' ∧ Nat.digitChar d ≠ '-' := by
  interval_cases d
  all_goals decide

variable (id : Uuid)

theorem length_hex : (hex id).length = 32 := by
  rw [hex, List.length_map, Positional.length_numeral]

theorem ne_of_mem_hex {id : Uuid} {c : Char} (h : c ∈ hex id) : c ≠ '/' ∧ c ≠ '-' := by
  obtain ⟨d, hd, rfl⟩ := List.mem_map.1 h
  exact digitChar_ne (Positional.lt_of_mem_numeral (by decide) hd)

theorem value_hex : Positional.value 16 ((hex id).map hexValue) = id.toNat := by
  have hdigits : (hex id).map hexValue = Positional.numeral 16 32 id.toNat := by
    rw [hex, List.map_map]
    refine (List.map_congr_left fun d hd => ?_).trans (List.map_id _)
    exact hexValue_digitChar (Positional.lt_of_mem_numeral (by decide) hd)
  rw [hdigits]
  refine Positional.value_numeral ?_
  have hlt := id.isLt
  calc id.toNat < 2 ^ 128 := hlt
    _ = 16 ^ 32 := by decide

theorem uuidText_eq : uuidText id = (hex id).take 8 ++ ['-'] ++ ((hex id).drop 8).take 4 ++ ['-']
    ++ ((hex id).drop 12).take 4 ++ ['-'] ++ ((hex id).drop 16).take 4 ++ ['-']
    ++ (hex id).drop 20 := by
  rw [uuidText]
  simp only [List.intercalate_cons_cons, List.intercalate_singleton, List.append_assoc]

theorem length_uuidText : (uuidText id).length = 36 := by
  simp only [uuidText_eq, List.length_append, List.length_take, List.length_drop, length_hex,
    List.length_singleton]
  decide

theorem hex_groups : (hex id).take 8 ++ (((hex id).drop 8).take 4 ++ (((hex id).drop 12).take 4
    ++ (((hex id).drop 16).take 4 ++ (hex id).drop 20))) = hex id := by
  have hgroup : ∀ i n, ((hex id).drop i).take n ++ (hex id).drop (i + n) = (hex id).drop i := by
    intro i n
    rw [← List.drop_drop]
    exact List.take_append_drop n _
  rw [hgroup 16 4, hgroup 12 4, hgroup 8 4, List.take_append_drop]

theorem filter_uuidText : (uuidText id).filter (· ≠ '-') = hex id := by
  have hkept : ∀ l : List Char, (∀ c ∈ l, c ∈ hex id) → l.filter (· ≠ '-') = l := by
    intro l hl
    refine List.filter_eq_self.2 fun c hc => ?_
    exact decide_eq_true (ne_of_mem_hex (hl c hc)).2
  rw [uuidText_eq]
  simp only [List.filter_append]
  rw [hkept _ fun c hc => List.mem_of_mem_take hc,
    hkept _ fun c hc => List.mem_of_mem_drop (List.mem_of_mem_take hc),
    hkept _ fun c hc => List.mem_of_mem_drop (List.mem_of_mem_take hc),
    hkept _ fun c hc => List.mem_of_mem_drop (List.mem_of_mem_take hc),
    hkept _ fun c hc => List.mem_of_mem_drop hc]
  simpa using hex_groups id

/-- **IDENTIFIERS** are read back. -/
theorem readUuid_uuidText : readUuid (uuidText id) = id := by
  rw [readUuid, filter_uuidText, value_hex, BitVec.ofNat_toNat, BitVec.setWidth_eq]

theorem noSlash_uuidText : '/' ∉ uuidText id := by
  intro h
  by_cases hdash : '/' ∈ (uuidText id).filter (· ≠ '-')
  · rw [filter_uuidText] at hdash
    exact (ne_of_mem_hex hdash).1 rfl
  · exact hdash (List.mem_filter.2 ⟨h, by decide⟩)

end Keys

section Objects

variable {u : UnicodeTables} {nfc : String → String} {ns filename key : String}
  {organizationId resourceId fileId : Uuid}

/-- The last segment of a key. -/
def fileSegment (u : UnicodeTables) (nfc : String → String) (fileId : Uuid) (filename : String) :
    List Char := uuidText fileId ++ ['_'] ++ (sanitizeFilename u nfc filename).toList

theorem buildObjectKey_isOk_iff :
    (∃ key, buildObjectKey u nfc ns organizationId resourceId fileId filename = .ok key) ↔
      isNamespace ns = true := by
  rw [buildObjectKey]
  split
  · next h => exact iff_of_true ⟨_, rfl⟩ h
  · next h => exact iff_of_false (fun ⟨_, hkey⟩ => nomatch hkey) h

theorem noSlash_of_isNamespace (h : isNamespace ns = true) : '/' ∉ ns.toList := by
  intro hslash
  rw [isNamespace, Bool.and_eq_true, List.all_eq_true] at h
  exact absurd (h.2 _ hslash) (by decide)

/-- **FOUR SEGMENTS**: a key is split where it was put together. -/
theorem splitOn_key
    (h : buildObjectKey u nfc ns organizationId resourceId fileId filename = .ok key) :
    key.toList.splitOn '/' = [ns.toList, uuidText organizationId, uuidText resourceId,
      fileSegment u nfc fileId filename] := by
  rw [buildObjectKey] at h
  split at h
  · next hns =>
    rw [← Except.ok.inj h]
    have hparts : ∀ l ∈ [ns.toList, uuidText organizationId, uuidText resourceId,
        fileSegment u nfc fileId filename], '/' ∉ l := by
      have hfile : '/' ∉ fileSegment u nfc fileId filename := by
        intro hslash
        rcases List.mem_append.1 hslash with hslash | hslash
        · rcases List.mem_append.1 hslash with hslash | hslash
          · exact noSlash_uuidText fileId hslash
          · exact absurd hslash (by decide)
        · exact (safeSegment_sanitizeFilename u nfc filename).noSlash hslash
      simp only [List.forall_mem_cons]
      exact ⟨noSlash_of_isNamespace hns, noSlash_uuidText _, noSlash_uuidText _, hfile,
        fun _ h => absurd h List.not_mem_nil⟩
    have hjoined := List.splitOn_intercalate '/' hparts (List.cons_ne_nil _ _)
    rw [String.toList_ofList, ← hjoined]
    simp only [List.intercalate_cons_cons, List.intercalate_singleton, fileSegment,
      List.append_assoc]
  · cases h

/-- **ROUND TRIP**: the namespace and the identifiers are recovered from a key, whatever the
filename. -/
theorem recoverKey_buildObjectKey
    (h : buildObjectKey u nfc ns organizationId resourceId fileId filename = .ok key) :
    recoverKey key = some (ns, organizationId, resourceId, fileId) := by
  have hfile : (fileSegment u nfc fileId filename).take 36 = uuidText fileId := by
    rw [fileSegment, List.append_assoc, List.take_append_of_le_length (length_uuidText _).ge,
      List.take_of_length_le (length_uuidText _).le]
  rw [recoverKey, splitOn_key h]
  dsimp only
  rw [hfile, readUuid_uuidText, readUuid_uuidText, readUuid_uuidText, String.ofList_toList]

end Objects

/-- **TENANT-SAFE KEYS**: a filename becomes a safe segment; a key is built for the namespaces of
the pattern, splits into four segments from which its parts are recovered, and is the key of no
other parts, whatever the filenames. -/
structure TenantSafe (u : UnicodeTables) (nfc : String → String) : Prop where
  filename : ∀ filename, SafeSegment (sanitizeFilename u nfc filename)
  accepted : ∀ ns organizationId resourceId fileId filename,
    (∃ key, buildObjectKey u nfc ns organizationId resourceId fileId filename = .ok key) ↔
      isNamespace ns = true
  segments : ∀ ns organizationId resourceId fileId filename key,
    buildObjectKey u nfc ns organizationId resourceId fileId filename = .ok key →
    (key.toList.splitOn '/').length = 4 ∧
      recoverKey key = some (ns, organizationId, resourceId, fileId)
  distinct : ∀ ns organizationId resourceId fileId filename ns' organizationId' resourceId' fileId'
      filename' key,
    buildObjectKey u nfc ns organizationId resourceId fileId filename = .ok key →
    buildObjectKey u nfc ns' organizationId' resourceId' fileId' filename' = .ok key →
    (ns, organizationId, resourceId, fileId) = (ns', organizationId', resourceId', fileId')

/-- **OBJECT KEYS ARE TENANT-SAFE**, for all character tables and whatever the normal form is. -/
theorem tenantSafe (u : UnicodeTables) (nfc : String → String) : TenantSafe u nfc where
  filename := safeSegment_sanitizeFilename u nfc
  accepted _ _ _ _ _ := buildObjectKey_isOk_iff
  segments _ _ _ _ _ _ h := ⟨by rw [splitOn_key h]; rfl, recoverKey_buildObjectKey h⟩
  distinct _ _ _ _ _ _ _ _ _ _ _ h h' :=
    Option.some.inj ((recoverKey_buildObjectKey h).symm.trans (recoverKey_buildObjectKey h'))

/-- A traversal comes to its last segment. -/
example : sanitizeFilename .ascii id "../../etc/passwd" = "passwd" := by decide

end StorageKeys
end AeroComply
