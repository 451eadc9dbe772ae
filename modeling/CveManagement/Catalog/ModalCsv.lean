import CveManagement.Catalog.InventoryCsv
import Mathlib

/-!
# The upload in the dialog

The dialog of `AddProductModal.jsx` has a reader of its own for the same files, from which the one
of `src/lib/csv.js` was taken, and one for lines that are typed in. The first breaks lines at each
`\n` and keeps the `\r` before it, the second knows neither quotes nor headers.

Whatever the file, the two readers of files find the same products
(`CveManagement.readers_agree`): a `\r` is trimmed with the last field of its line, and a line that
has nothing else is no product for either of them. What is typed in is read as a file is, if there
is no quote in it and its first line is no header.
-/

namespace CveManagement

/-- A product, as the dialog sends it. -/
structure ModalRow where
  name : Text
  version : Text
  vendor : Text
  cpeKeyword : Text

namespace AddProductModal

/-- `text.trim().split('\n').filter(Boolean)`. -/
def lines (text : Text) : List Text :=
  ((jsTrim text).splitOn '\n').filter fun line => !line.isEmpty

/-- A line that is typed in. -/
def typed (line : Text) : ModalRow :=
  let parts := (line.splitOn ',').map jsTrim
  ⟨parts.getD 0 [], parts.getD 1 [], parts.getD 2 [], parts.getD 3 []⟩

/-- **`parseTextLines`.** -/
def parseTextLines (text : Text) : List ModalRow :=
  ((lines text).map typed).filter fun p => !p.name.isEmpty && !p.version.isEmpty

/-- A round of the loop of `parseCsv`; its `splitCsvLine` is the same function. -/
def row (line : Text) : Option ModalRow :=
  let cols := splitCsvLine line
  let name := jsTrim (cols.getD 0 [])
  let version := jsTrim (cols.getD 1 [])
  if name = [] ∨ version = [] then none
  else some ⟨name, version, jsTrim (cols.getD 2 []), jsTrim (cols.getD 3 [])⟩

/-- **`parseCsv`** of the dialog. -/
def parseCsv (toLowerCase : Text → Text) (text : Text) : List ModalRow :=
  match lines text with
  | [] => []
  | first :: rest =>
    let startIdx := if hinted toLowerCase first then 1 else 0
    ((first :: rest).drop startIdx).filterMap row

end AddProductModal

/-- A row of the other reader, with empty texts for what is missing. -/
def InventoryRow.filled (r : InventoryRow) : ModalRow :=
  ⟨r.name, r.version, r.vendor.getD [], r.cpeKeyword.getD []⟩

/-! ### A line with what is left of its end -/

/-- **A line of the dialog**: a line, or one with a `\r` behind it. -/
def KeepsReturn (m l : Text) : Prop := m = l ∨ m = l ++ ['\r']

theorem KeepsReturn.cons {m l : Text} (h : KeepsReturn m l) (c : Char) :
    KeepsReturn (c :: m) (c :: l) := by
  rcases h with rfl | rfl
  · exact .inl rfl
  · exact .inr rfl

/-- **The two readers break a text at the same places.** -/
theorem keepsReturn_splitLines (s : Text) :
    List.Forall₂ KeepsReturn (s.splitOn '\n') (splitLines s) := by
  fun_induction splitLines s with
  | case1 => exact .cons (.inl rfl) .nil
  | case2 s ih =>
    rw [List.splitOn_cons_eq_if_modifyHead, if_pos (by decide)]
    exact .cons (.inl rfl) ih
  | case3 s ih =>
    rw [List.splitOn_cons_eq_if_modifyHead, if_neg (by decide), List.splitOn_cons_eq_if_modifyHead,
      if_pos (by decide)]
    exact .cons (.inr rfl) ih
  | case4 c s hline hreturn ih =>
    rw [List.splitOn_cons_eq_if_modifyHead, if_neg fun h => hline (eq_of_beq h)]
    revert ih
    generalize s.splitOn '\n' = ms
    generalize splitLines s = ls
    rintro (_ | ⟨h, hrest⟩)
    · exact .nil
    · exact .cons (h.cons c) hrest

section KeepsReturn

variable {m l : Text}

/-- A `\r` is trimmed. -/
theorem jsTrim_concat_return (s : Text) : jsTrim (s ++ ['\r']) = jsTrim s := by
  rw [jsTrim, jsTrim]
  by_cases h : ∀ c ∈ s, isJsSpace c = true
  · have hall : s.dropWhile isJsSpace = [] := List.dropWhile_eq_nil_iff.mpr h
    rw [List.dropWhile_append, hall]
    rfl
  · have hsome : (s.dropWhile isJsSpace).isEmpty = false := by
      rw [List.isEmpty_eq_false_iff]
      exact fun hnil => h (List.dropWhile_eq_nil_iff.mp hnil)
    rw [List.dropWhile_append, hsome, if_neg Bool.false_ne_true]
    exact List.rdropWhile_concat_pos _ _ _ (by decide)

/-- **The fields of a line** are trimmed to the same texts. -/
theorem KeepsReturn.jsTrim_getD (h : KeepsReturn m l) (i : ℕ) :
    jsTrim ((splitCsvLine m).getD i []) = jsTrim ((splitCsvLine l).getD i []) := by
  rcases h with rfl | rfl
  · rfl
  · have hstep : ∀ st : LineState, st.step '\r' = { st with current := st.current ++ ['\r'] } := by
      intro st
      rw [LineState.step, if_neg (by decide), if_neg fun h => absurd h.1 (by decide)]
    rw [splitCsvLine, splitCsvLine, List.foldl_append, List.foldl_cons, List.foldl_nil, hstep]
    dsimp only
    generalize (l.foldl LineState.step ⟨[], [], false⟩).out = out
    generalize (l.foldl LineState.step ⟨[], [], false⟩).current = current
    rcases lt_trichotomy i out.length with hi | rfl | hi
    · rw [List.getD_append _ _ _ _ hi, List.getD_append _ _ _ _ hi]
    · rw [List.getD_append_right _ _ _ _ le_rfl, List.getD_append_right _ _ _ _ le_rfl,
        Nat.sub_self]
      exact jsTrim_concat_return current
    · rw [List.getD_eq_default _ _ (by simpa using hi),
        List.getD_eq_default _ _ (by simpa using hi)]

/-- **A line is the same product** for both readers. -/
theorem KeepsReturn.row_eq (h : KeepsReturn m l) :
    AddProductModal.row m = (inventoryRow l).map InventoryRow.filled := by
  have hfilled : ∀ s : Text, (orUndefined s).getD [] = s := by
    intro s
    rw [orUndefined]
    split_ifs with hs
    · rw [hs]
      rfl
    · rfl
  unfold AddProductModal.row inventoryRow
  dsimp only
  rw [h.jsTrim_getD 0, h.jsTrim_getD 1, h.jsTrim_getD 2, h.jsTrim_getD 3]
  split_ifs
  · rfl
  · rw [Option.map_some, InventoryRow.filled, hfilled, hfilled]

end KeepsReturn

/-! ### Files -/

/-- What is trimmed begins with no white space. -/
theorem head_jsTrim {text rest : Text} {c : Char} (h : jsTrim text = c :: rest) :
    isJsSpace c = false := by
  have hprefix : c :: rest <+: text.dropWhile isJsSpace := by
    rw [← h]
    exact List.rdropWhile_prefix _ _
  obtain ⟨end_, hend⟩ := hprefix
  have hhead := List.head?_dropWhile_not isJsSpace text
  rw [← hend] at hhead
  simpa using hhead

/-- The first line of what is trimmed has a character. -/
theorem exists_first_line {text rest : Text} {c : Char} (h : jsTrim text = c :: rest) :
    ∃ m ms, (c :: rest).splitOn '\n' = (c :: m) :: ms := by
  have hbreak : ¬(c == '\n') = true := by
    intro heq
    have hspace := head_jsTrim h
    rw [eq_of_beq heq] at hspace
    cases hspace
  obtain ⟨m, ms, hms⟩ := List.exists_cons_of_ne_nil (List.splitOn_ne_nil '\n' rest)
  refine ⟨m, ms, ?_⟩
  rw [List.splitOn_cons_eq_if_modifyHead, if_neg hbreak, hms, List.modifyHead_cons]

/-- **A line is a header for both readers**, whatever is left of its end. -/
theorem hinted_concat_return {toLowerCase : Text → Text}
    (hlower : ∀ s, toLowerCase (s ++ ['\r']) = toLowerCase s ++ ['\r']) (line : Text) :
    hinted toLowerCase (line ++ ['\r']) = hinted toLowerCase line := by
  have hhint : ∀ h ∈ headerHints, h ≠ [] ∧ '\r' ∉ h := by
    rw [headerHints]
    decide
  rw [hinted, hinted, hlower, Bool.eq_iff_iff, List.any_eq_true, List.any_eq_true]
  refine exists_congr fun h => and_congr_right fun hmem => ?_
  rw [Text.isIn, Text.isIn, decide_eq_true_eq, decide_eq_true_eq, List.infix_concat_iff,
    List.suffix_concat_iff]
  constructor
  · rintro ((hnil | ⟨t, ht, -⟩) | hinfix)
    · exact absurd hnil (hhint h hmem).1
    · rw [ht] at hmem
      exact absurd (List.mem_append_right t List.mem_cons_self) (hhint _ hmem).2
    · exact hinfix
  · exact .inr

section Lines

variable {ms ls : List Text}

/-- What the readers make of lines, of which both leave out those that are empty for them. -/
theorem filterMap_row (h : List.Forall₂ KeepsReturn ms ls) :
    (ms.filter fun line => !line.isEmpty).filterMap AddProductModal.row =
      ((ls.filter fun line => !line.isEmpty).filterMap inventoryRow).map InventoryRow.filled := by
  induction h with
  | nil => rfl
  | @cons m l ms ls hml _ ih =>
    -- an empty line has no product, so it may as well be looked at
    have hmodal : ((m :: ms).filter fun line => !line.isEmpty).filterMap AddProductModal.row =
        (AddProductModal.row m).toList ++
          (ms.filter fun line => !line.isEmpty).filterMap AddProductModal.row := by
      cases m with
      | nil => rfl
      | cons c m =>
        rw [List.filter_cons_of_pos rfl, List.filterMap_cons]
        cases AddProductModal.row (c :: m) <;> rfl
    have hother : ((l :: ls).filter fun line => !line.isEmpty).filterMap inventoryRow =
        (inventoryRow l).toList ++
          (ls.filter fun line => !line.isEmpty).filterMap inventoryRow := by
      cases l with
      | nil => rfl
      | cons c l =>
        rw [List.filter_cons_of_pos rfl, List.filterMap_cons]
        cases inventoryRow (c :: l) <;> rfl
    rw [hmodal, hother, ih, List.map_append, hml.row_eq]
    cases inventoryRow l <;> rfl

end Lines

/-- The rows of the other reader, without its errors. -/
theorem rows_parseCsv (toLowerCase : Text → Text) {text first : Text} {rest : List Text}
    (h : ((splitLines (jsTrim text)).filter fun line => !line.isEmpty) = first :: rest) :
    (parseCsv toLowerCase text).rows =
      ((first :: rest).drop (if hinted toLowerCase first then 1 else 0)).filterMap
        inventoryRow := by
  have hmap : ∀ l : List (Text × ℕ), (l.filterMap fun x => inventoryRow x.1) =
      (l.map Prod.fst).filterMap inventoryRow := by
    intro l
    rw [List.filterMap_map]
    rfl
  unfold parseCsv
  rw [h]
  dsimp only
  rw [rows_foldl_step, List.nil_append, hmap, List.map_drop, List.zipIdx_map_fst]

/-- **The two readers of files agree.** -/
theorem parseCsv_eq {toLowerCase : Text → Text}
    (hlower : ∀ s, toLowerCase (s ++ ['\r']) = toLowerCase s ++ ['\r']) (text : Text) :
    AddProductModal.parseCsv toLowerCase text =
      (parseCsv toLowerCase text).rows.map InventoryRow.filled := by
  have hlines := keepsReturn_splitLines (jsTrim text)
  rw [AddProductModal.parseCsv]
  cases htrim : jsTrim text with
  | nil =>
    rw [AddProductModal.lines, parseCsv, htrim]
    rfl
  | cons c t =>
    obtain ⟨m, ms, hmodal⟩ := exists_first_line htrim
    rw [htrim, hmodal] at hlines
    obtain ⟨l, ls, hml, hrest, hls⟩ := List.forall₂_cons_left_iff.mp hlines
    -- the first line has more than a `\r`, so both readers have it first
    have hl : l.isEmpty = false := by
      rw [List.isEmpty_eq_false_iff]
      rintro rfl
      rcases hml with h | h
      · cases h
      · have hspace := head_jsTrim htrim
        rw [(List.cons.inj h).1] at hspace
        cases hspace
    have hfirst : hinted toLowerCase (c :: m) = hinted toLowerCase l := by
      rcases hml with h | h
      · rw [h]
      · rw [h, hinted_concat_return hlower]
    have hmfilter : AddProductModal.lines text =
        (c :: m) :: ms.filter fun line => !line.isEmpty := by
      rw [AddProductModal.lines, htrim, hmodal, List.filter_cons_of_pos rfl]
    have hlfilter : ((splitLines (jsTrim text)).filter fun line => !line.isEmpty) =
        l :: ls.filter fun line => !line.isEmpty := by
      rw [htrim, hls, List.filter_cons_of_pos (by rw [hl]; rfl)]
    rw [rows_parseCsv toLowerCase hlfilter, hmfilter, ← hfirst]
    dsimp only
    split_ifs
    · rw [List.drop_one, List.drop_one, List.tail_cons, List.tail_cons]
      exact filterMap_row hrest
    · have hall := filterMap_row (.cons hml hrest)
      rwa [List.filter_cons_of_pos rfl, List.filter_cons_of_pos (by rw [hl]; rfl)] at hall

/-! ### Lines that are typed in -/

section Typed

variable {text line : Text}

/-- What a text is split into is in it. -/
theorem mem_of_mem_splitOn {sep c : Char} {s : Text} (hline : line ∈ s.splitOn sep)
    (hc : c ∈ line) : c ∈ s := by
  induction s generalizing line with
  | nil =>
    rw [List.splitOn_nil, List.mem_singleton] at hline
    rwa [hline] at hc
  | cons d s ih =>
    obtain ⟨first, rest, hsplit⟩ := List.exists_cons_of_ne_nil (List.splitOn_ne_nil sep s)
    rw [List.splitOn_cons_eq_if_modifyHead, hsplit] at hline
    rw [hsplit] at ih
    split_ifs at hline
    · rcases List.mem_cons.mp hline with rfl | hline
      · cases hc
      · exact List.mem_cons_of_mem _ (ih hline hc)
    · rcases List.mem_cons.mp hline with rfl | hline
      · rcases List.mem_cons.mp hc with rfl | hc
        · exact List.mem_cons_self
        · exact List.mem_cons_of_mem _ (ih List.mem_cons_self hc)
      · exact List.mem_cons_of_mem _ (ih (List.mem_cons_of_mem _ hline) hc)

/-- **Without quotes a line is split at its commas.** -/
theorem splitCsvLine_of_no_quote (h : '"' ∉ line) : splitCsvLine line = line.splitOn ',' := by
  have hloop : ∀ (line : Text), '"' ∉ line → ∀ out current,
      (line.foldl LineState.step ⟨out, current, false⟩).out ++
          [(line.foldl LineState.step ⟨out, current, false⟩).current] =
        out ++ (line.splitOn ',').modifyHead (current ++ ·) := by
    intro line
    induction line with
    | nil => exact fun _ out current => by simp
    | cons c line ih =>
      intro h out current
      rw [List.mem_cons, not_or] at h
      rw [List.foldl_cons, List.splitOn_cons_eq_if_modifyHead, LineState.step,
        if_neg (Ne.symm h.1)]
      by_cases hcomma : c = ','
      · rw [if_pos ⟨hcomma, rfl⟩, if_pos (by simpa using hcomma), ih h.2]
        obtain ⟨first, rest, hsplit⟩ := List.exists_cons_of_ne_nil (List.splitOn_ne_nil ',' line)
        rw [hsplit]
        simp
      · rw [if_neg fun heq => hcomma heq.1, if_neg (by simpa using hcomma), ih h.2]
        obtain ⟨first, rest, hsplit⟩ := List.exists_cons_of_ne_nil (List.splitOn_ne_nil ',' line)
        rw [hsplit]
        simp
  rw [splitCsvLine, hloop line h, List.nil_append]
  obtain ⟨first, rest, hsplit⟩ := List.exists_cons_of_ne_nil (List.splitOn_ne_nil ',' line)
  rw [hsplit]
  rfl

/-- A line without quotes is the same product, typed in or in a file. -/
theorem row_of_no_quote (h : '"' ∉ line) : AddProductModal.row line =
    Option.guard (fun p => !p.name.isEmpty && !p.version.isEmpty) (AddProductModal.typed line) := by
  have hget : ∀ i, ((line.splitOn ',').map jsTrim).getD i [] =
      jsTrim ((splitCsvLine line).getD i []) := by
    intro i
    rw [splitCsvLine_of_no_quote h]
    exact List.getD_map (f := jsTrim) (d := []) ..
  unfold AddProductModal.row AddProductModal.typed
  dsimp only
  rw [hget 0, hget 1, hget 2, hget 3, Option.guard_apply]
  by_cases hname : jsTrim ((splitCsvLine line).getD 0 []) = []
  · rw [if_pos (.inl hname), hname]
    rfl
  · by_cases hversion : jsTrim ((splitCsvLine line).getD 1 []) = []
    · rw [if_pos (.inr hversion), hversion, List.isEmpty_nil, Bool.not_true, Bool.and_false]
      rfl
    · rw [if_neg (not_or.mpr ⟨hname, hversion⟩), List.isEmpty_eq_false_iff.mpr hname,
        List.isEmpty_eq_false_iff.mpr hversion]
      rfl

/-- The first line that is looked at is the first line. -/
theorem head_of_lines {first : Text} {rest : List Text}
    (h : AddProductModal.lines text = first :: rest) :
    first ∈ ((jsTrim text).splitOn '\n').head? := by
  rw [AddProductModal.lines] at h
  cases htrim : jsTrim text with
  | nil =>
    rw [htrim] at h
    cases h
  | cons c t =>
    obtain ⟨m, ms, hms⟩ := exists_first_line htrim
    rw [htrim, hms, List.filter_cons_of_pos rfl] at h
    rw [hms, (List.cons.inj h).1]
    exact rfl

/-- **What is typed in** is read as the lines of a file are, if there is no quote in it. -/
theorem parseTextLines_of_no_quote (h : '"' ∉ text) : AddProductModal.parseTextLines text =
    (AddProductModal.lines text).filterMap AddProductModal.row := by
  have hlines : ∀ line ∈ AddProductModal.lines text, '"' ∉ line := fun line hline hmem =>
    h ((jsTrim_sublist text).mem (mem_of_mem_splitOn (List.mem_filter.mp hline).1 hmem))
  rw [AddProductModal.parseTextLines, ← List.filterMap_eq_filter, List.filterMap_map]
  exact List.filterMap_congr fun line hline => (row_of_no_quote (hlines line hline)).symm

end Typed

/-- **The three readers agree**: on every file the two readers of files, and what is typed in is
read as a file is, if there is no quote in it and its first line is no header. -/
theorem readers_agree (toLowerCase : Text → Text)
    (hlower : ∀ s, toLowerCase (s ++ ['\r']) = toLowerCase s ++ ['\r']) (text : Text) :
    AddProductModal.parseCsv toLowerCase text =
        (parseCsv toLowerCase text).rows.map InventoryRow.filled ∧
      ('"' ∉ text →
        (∀ first ∈ ((jsTrim text).splitOn '\n').head?, hinted toLowerCase first = false) →
          AddProductModal.parseTextLines text = AddProductModal.parseCsv toLowerCase text) := by
  refine ⟨parseCsv_eq hlower text, fun hquote hfirst => ?_⟩
  rw [parseTextLines_of_no_quote hquote, AddProductModal.parseCsv]
  cases hlines : AddProductModal.lines text with
  | nil => rfl
  | cons first rest =>
    have hhead : hinted toLowerCase first = false := hfirst first (head_of_lines hlines)
    dsimp only
    rw [hhead]
    rfl

theorem readers_agree_crlf :
    AddProductModal.parseCsv (List.map Char.toLower) "name,version\r\nnginx,1.0\r\n".toList =
        (parseCsv (List.map Char.toLower) "name,version\r\nnginx,1.0\r\n".toList).rows.map
          InventoryRow.filled ∧
      AddProductModal.parseTextLines "nginx,1.0\r\ncurl,8.0".toList =
        AddProductModal.parseCsv (List.map Char.toLower) "nginx,1.0\r\ncurl,8.0".toList := by
  have hlower : ∀ s : Text, (s ++ ['\r']).map Char.toLower = s.map Char.toLower ++ ['\r'] :=
    fun _ => List.map_append
  exact ⟨(readers_agree _ hlower _).1, (readers_agree _ hlower _).2 (by decide) (by decide)⟩

end CveManagement
