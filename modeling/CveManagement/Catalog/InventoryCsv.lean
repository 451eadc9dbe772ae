import CveManagement.Library.Csv
import CveManagement.Payload.Python
import Mathlib

/-!
# The upload of an inventory

`parseCsv` of `src/lib/csv.js`: the lines of a file, of which the first is taken for a header if it
has one of three words in it anywhere, are split at the commas outside quotes, and become products
with a name and a version at least. A quote begins or ends a quoted part, and is never a character
of a field; two of them, which stand for one, are none. So what is written is read exactly if no
field has a quote, and no product looks like a header (`CveManagement.inventoryRoundTrips_iff`).
-/

namespace CveManagement

/-! ### Texts of JavaScript -/

/-- White space and the ends of lines, as `trim` knows them. -/
def isJsSpace (c : Char) : Bool :=
  let n := c.toNat
  (9 ≤ n && n ≤ 13) || n == 0x20 || n == 0xA0 || n == 0x1680 || (0x2000 ≤ n && n ≤ 0x200A) ||
    n == 0x2028 || n == 0x2029 || n == 0x202F || n == 0x205F || n == 0x3000 || n == 0xFEFF

/-- `s.trim()`. -/
def jsTrim (s : Text) : Text := (s.dropWhile isJsSpace).rdropWhile isJsSpace

/-- `s.split(/\r?\n/)`. -/
def splitLines : Text → List Text
  | [] => [[]]
  | '\n' :: s => [] :: splitLines s
  | '\r' :: '\n' :: s => [] :: splitLines s
  | c :: s => (splitLines s).modifyHead (c :: ·)

/-! ### A line -/

/-- The variables of the loop of `splitCsvLine`. -/
structure LineState where
  out : List Text
  current : Text
  inQuotes : Bool

/-- A round of it. -/
def LineState.step (st : LineState) (ch : Char) : LineState :=
  if ch = '"' then { st with inQuotes := !st.inQuotes }
  else if ch = ',' ∧ st.inQuotes = false then ⟨st.out ++ [st.current], [], st.inQuotes⟩
  else { st with current := st.current ++ [ch] }

/-- **`splitCsvLine`.** -/
def splitCsvLine (line : Text) : List Text :=
  let st := line.foldl LineState.step ⟨[], [], false⟩
  st.out ++ [st.current]

/-- A row of the inventory. -/
structure InventoryRow where
  name : Text
  version : Text
  vendor : Option Text
  cpeKeyword : Option Text

/-- `s || undefined`. -/
def orUndefined (s : Text) : Option Text := if s = [] then none else some s

/-- The row of a line, unless its name or its version is missing. -/
def inventoryRow (line : Text) : Option InventoryRow :=
  let cols := splitCsvLine line
  let name := jsTrim (cols.getD 0 [])
  let version := jsTrim (cols.getD 1 [])
  if name = [] ∨ version = [] then none
  else some ⟨name, version, orUndefined (jsTrim (cols.getD 2 [])),
    orUndefined (jsTrim (cols.getD 3 []))⟩

/-! ### A file -/

/-- What `parseCsv` returns. -/
structure InventoryParse where
  rows : List InventoryRow
  errors : List String

/-- A round of its loop, for the line with the index `i`. -/
def InventoryParse.step (st : InventoryParse) (line : Text × ℕ) : InventoryParse :=
  match inventoryRow line.1 with
  | none =>
    { st with errors := st.errors ++ ["riga " ++ toString (line.2 + 1) ++
        ": nome o versione mancante"] }
  | some row => { st with rows := st.rows ++ [row] }

/-- `HEADER_HINTS`. -/
def headerHints : List Text := ["nome", "name", "product"].map String.toList

/-- One of the hints is in the line, in lower case. -/
def hinted (toLowerCase : Text → Text) (line : Text) : Bool :=
  headerHints.any fun h => h.isIn (toLowerCase line)

/-- **`parseCsv`**, with the `toLowerCase` of the texts. -/
def parseCsv (toLowerCase : Text → Text) (text : Text) : InventoryParse :=
  let lines := (splitLines (jsTrim text)).filter fun line => !line.isEmpty
  match lines with
  | [] => ⟨[], []⟩
  | first :: _ =>
    let startIdx := if hinted toLowerCase first then 1 else 0
    (lines.zipIdx.drop startIdx).foldl InventoryParse.step ⟨[], []⟩

/-! ### What is written -/

/-- **A field of a product**: not empty, on one line, and with no white space around it. -/
structure InventoryField where
  text : Text
  ne_nil : text ≠ []
  no_break : ∀ c ∈ text, c ≠ '\n' ∧ c ≠ '\r'
  head_not_space : ∀ c ∈ text.head?, isJsSpace c = false
  last_not_space : ∀ c ∈ text.getLast?, isJsSpace c = false

/-- A product. -/
structure InventoryProduct where
  name : InventoryField
  version : InventoryField
  vendor : Option InventoryField
  cpeKeyword : Option InventoryField

namespace InventoryProduct

/-- The fields in their order; one that is missing is empty. -/
def fields (p : InventoryProduct) : List Text :=
  [p.name.text, p.version.text, (p.vendor.map InventoryField.text).getD [],
    (p.cpeKeyword.map InventoryField.text).getD []]

/-- The row it is read as. -/
def row (p : InventoryProduct) : InventoryRow :=
  ⟨p.name.text, p.version.text, p.vendor.map InventoryField.text,
    p.cpeKeyword.map InventoryField.text⟩

/-- **The lines of a product**: a record of its fields, of which the last ones can be left out if
they are empty. -/
def Writes (p : InventoryProduct) (line : Text) : Prop :=
  ∃ n written, 2 ≤ n ∧ (∀ field ∈ p.fields.drop n, field = []) ∧
    List.Forall₂ Csv.Writes (p.fields.take n) written ∧ line = Csv.record written

end InventoryProduct

/-- A line that is taken for a header, wherever it stands. -/
structure HeaderLine (toLowerCase : Text → Text) where
  text : Text
  no_break : ∀ c ∈ text, c ≠ '\n' ∧ c ≠ '\r'
  starts : ∃ c ∈ text.head?, isJsSpace c = false
  is_hinted : hinted toLowerCase text = true

/-- **The products are read** from a text, also with a header before it, and nothing is missing. -/
def InventoryRoundTrips (toLowerCase : Text → Text) (products : List InventoryProduct)
    (text : Text) : Prop :=
  parseCsv toLowerCase text = ⟨products.map InventoryProduct.row, []⟩ ∧
  ∀ (header : HeaderLine toLowerCase) (end_ : Text), end_ = ['\n'] ∨ end_ = ['\r', '\n'] →
    parseCsv toLowerCase (header.text ++ end_ ++ text) = ⟨products.map InventoryProduct.row, []⟩

/-! ### Lines -/

/-- What is related to the members of a list is related to one of the other. -/
theorem exists_of_forall₂ {α β : Type} {R : α → β → Prop} {l : List α} {u : List β}
    (h : List.Forall₂ R l u) : ∀ b ∈ u, ∃ a ∈ l, R a b := by
  induction h with
  | nil => exact List.forall_mem_nil _
  | @cons a b l u hab hrest ih =>
    rw [List.forall_mem_cons]
    exact ⟨⟨a, List.mem_cons_self, hab⟩, fun b' hb' =>
      (ih b' hb').imp fun a' ⟨ha', hR⟩ => ⟨List.mem_cons_of_mem _ ha', hR⟩⟩

section SplitLines

variable {line text end_ : Text} {lines : List Text}

/-- A character that breaks no line. -/
theorem splitLines_cons {c : Char} (h : c ≠ '\n' ∧ c ≠ '\r') (s : Text) :
    splitLines (c :: s) = (splitLines s).modifyHead (c :: ·) := by
  rw [splitLines]
  · exact fun heq => absurd heq h.1
  · exact fun _ heq => absurd heq h.2

/-- **A line is split off.** -/
theorem splitLines_append (h : ∀ c ∈ line, c ≠ '\n' ∧ c ≠ '\r')
    (hend : end_ = ['\n'] ∨ end_ = ['\r', '\n']) (text : Text) :
    splitLines (line ++ end_ ++ text) = line :: splitLines text := by
  induction line with
  | nil =>
    rcases hend with rfl | rfl
    · rfl
    · rfl
  | cons c line ih =>
    rw [List.forall_mem_cons] at h
    rw [List.cons_append, List.cons_append, splitLines_cons h.1, ih h.2]
    rfl

/-- And the last one is what is left. -/
theorem splitLines_line (h : ∀ c ∈ line, c ≠ '\n' ∧ c ≠ '\r') : splitLines line = [line] := by
  induction line with
  | nil => rfl
  | cons c line ih =>
    rw [List.forall_mem_cons] at h
    rw [splitLines_cons h.1, ih h.2]
    rfl

/-- **The text of lines**, up to the end of the last one. -/
theorem exists_body (htext : Csv.Lines lines text) (hlines : lines ≠ [])
    (hbreak : ∀ line ∈ lines, ∀ c ∈ line, c ≠ '\n' ∧ c ≠ '\r') (hnil : ∀ line ∈ lines, line ≠ []) :
    ∃ body tail, text = body ++ tail ∧ (∀ c ∈ tail, isJsSpace c = true) ∧
      splitLines body = lines ∧ body.head? = lines.head?.bind List.head? ∧
      body.getLast? = lines.getLast?.bind List.getLast? := by
  induction htext with
  | nil => exact absurd rfl hlines
  | last line =>
    rw [List.forall_mem_singleton] at hbreak
    exact ⟨line, [], (List.append_nil _).symm, List.forall_mem_nil _, splitLines_line hbreak, rfl,
      rfl⟩
  | @cons line end_ hend lines text hrest ih =>
    rw [List.forall_mem_cons] at hbreak hnil
    have hspace : ∀ c ∈ end_, isJsSpace c = true := by
      rcases hend with rfl | rfl <;> simp [isJsSpace]
    by_cases hlast : lines = []
    · -- the end of the last line is left over
      subst hlast
      cases hrest
      refine ⟨line, end_, List.append_nil _, hspace, splitLines_line hbreak.1, rfl, rfl⟩
    · obtain ⟨body, tail, rfl, htail, hsplit, hhead, hlast'⟩ := ih hlast hbreak.2 hnil.2
      refine ⟨line ++ end_ ++ body, tail, (List.append_assoc _ _ _).symm, htail, ?_, ?_, ?_⟩
      · rw [splitLines_append hbreak.1 hend, hsplit]
      · rw [List.append_assoc, List.head?_append_of_ne_nil _ hnil.1]
        rfl
      · have hbody : body ≠ [] := by
          rintro rfl
          exact hnil.2 [] (by rw [← hsplit]; exact List.mem_cons_self) rfl
        have hlines : (line :: lines).getLast? = lines.getLast? :=
          List.getLast?_append_of_ne_nil [line] hlast
        rw [List.getLast?_append_of_ne_nil _ hbody, hlast', hlines]

/-- White space after a text is trimmed. -/
theorem jsTrim_append {body tail : Text} (hhead : ∃ c ∈ body.head?, isJsSpace c = false)
    (hlast : ∃ c ∈ body.getLast?, isJsSpace c = false) (htail : ∀ c ∈ tail, isJsSpace c = true) :
    jsTrim (body ++ tail) = body := by
  obtain ⟨c, hc, hcspace⟩ := hhead
  obtain ⟨rest, rfl⟩ := List.head?_eq_some_iff.mp hc
  obtain ⟨d, hd, hdspace⟩ := hlast
  obtain ⟨init, hinit⟩ := List.getLast?_eq_some_iff.mp hd
  rw [jsTrim, List.cons_append, List.dropWhile_cons_of_neg (by simp [hcspace]), ← List.cons_append,
    hinit, List.rdropWhile, List.reverse_append,
    List.dropWhile_append_of_pos (by simpa using htail), List.reverse_concat,
    List.dropWhile_cons_of_neg (by simp [hdspace])]
  simp

end SplitLines

/-! ### Splitting a line -/

section SplitLine

variable {cell written : Text} {cells ws : List Text}

/-- **Without a quote a text is taken as it is**, also its commas if a quote is open. -/
theorem foldl_step_text {q : Bool} (h : ∀ c ∈ cell, c ≠ '"' ∧ (c = ',' → q = true))
    (out : List Text) (current : Text) :
    cell.foldl LineState.step ⟨out, current, q⟩ = ⟨out, current ++ cell, q⟩ := by
  induction cell generalizing current with
  | nil => rw [List.foldl_nil, List.append_nil]
  | cons c cell ih =>
    rw [List.forall_mem_cons] at h
    have hstep : LineState.step ⟨out, current, q⟩ c = ⟨out, current ++ [c], q⟩ := by
      rw [LineState.step, if_neg h.1.1, if_neg]
      rintro ⟨hcomma, hq⟩
      rw [h.1.2 hcomma] at hq
      cases hq
    rw [List.foldl_cons, hstep, ih h.2, List.append_assoc]
    rfl

/-- **A field without quotes is taken** from what is written of it. -/
theorem foldl_step_writes (hquote : '"' ∉ cell) (h : Csv.Writes cell written) (out : List Text) :
    written.foldl LineState.step ⟨out, [], false⟩ = ⟨out, cell, false⟩ := by
  have hne : ∀ c ∈ cell, c ≠ '"' := fun c hc heq => hquote (heq ▸ hc)
  cases h with
  | plain hplain =>
    refine foldl_step_text (fun c hc => ⟨hne c hc, ?_⟩) out []
    rintro rfl
    exact absurd (by decide) (hplain ',' hc)
  | quoted =>
    have hopen : LineState.step ⟨out, [], false⟩ '"' = ⟨out, [], true⟩ := rfl
    have hclose : LineState.step ⟨out, cell, true⟩ '"' = ⟨out, cell, false⟩ := rfl
    rw [Csv.quoted, Csv.doubled_eq_self hquote, List.foldl_cons, hopen, List.foldl_append,
      foldl_step_text fun c hc => ⟨hne c hc, fun _ => rfl⟩]
    exact hclose

/-- **A record is split into its fields**, if they have no quotes. -/
theorem splitCsvLine_record (h : List.Forall₂ Csv.Writes cells ws) (hcells : cells ≠ [])
    (hquote : ∀ cell ∈ cells, '"' ∉ cell) : splitCsvLine (Csv.record ws) = cells := by
  have hloop : ∀ out : List Text, ∃ st : LineState,
      (Csv.record ws).foldl LineState.step ⟨out, [], false⟩ = st ∧
        st.out ++ [st.current] = out ++ cells := by
    induction h with
    | nil => exact absurd rfl hcells
    | @cons cell w cells ws hcell hrest ih =>
      rw [List.forall_mem_cons] at hquote
      intro out
      have hfirst := foldl_step_writes hquote.1 hcell out
      cases hrest with
      | nil => exact ⟨⟨out, cell, false⟩, by rw [Csv.record_singleton, hfirst], rfl⟩
      | cons hcell' hrest' =>
        obtain ⟨st, hst, hout⟩ := ih (List.cons_ne_nil _ _) hquote.2 (out ++ [cell])
        refine ⟨st, ?_, by rw [hout, List.append_assoc]; rfl⟩
        rw [Csv.record_cons _ (List.cons_ne_nil _ _), List.foldl_append, hfirst, List.foldl_cons]
        exact hst
  obtain ⟨st, hst, hout⟩ := hloop []
  rw [splitCsvLine, hst]
  exact hout

/-- **No field has a quote**, whatever the line. -/
theorem quote_not_mem_splitCsvLine (line : Text) : ∀ col ∈ splitCsvLine line, '"' ∉ col := by
  have hloop : ∀ st : LineState, (∀ col ∈ st.out ++ [st.current], '"' ∉ col) →
      ∀ col ∈ (line.foldl LineState.step st).out ++ [(line.foldl LineState.step st).current],
        '"' ∉ col := by
    induction line with
    | nil => exact fun _ h => h
    | cons c line ih =>
      intro st h
      refine ih _ ?_
      rw [List.forall_mem_append, List.forall_mem_singleton] at h ⊢
      unfold LineState.step
      split_ifs with hc hcomma
      · exact h
      · refine ⟨?_, List.not_mem_nil⟩
        rw [List.forall_mem_append, List.forall_mem_singleton]
        exact h
      · refine ⟨h.1, ?_⟩
        rw [List.mem_append, List.mem_singleton, not_or]
        exact ⟨h.2, Ne.symm hc⟩
  exact hloop _ (by simp)

end SplitLine

/-! ### The products of the lines -/

section Rows

variable {toLowerCase : Text → Text} {p : InventoryProduct} {line text : Text}
  {products : List InventoryProduct} {lines : List Text}

/-- A text with no white space around it is not trimmed. -/
theorem jsTrim_eq_self (hhead : ∀ c ∈ text.head?, isJsSpace c = false)
    (hlast : ∀ c ∈ text.getLast?, isJsSpace c = false) : jsTrim text = text := by
  by_cases htext : text = []
  · rw [htext]
    rfl
  · have htrim : jsTrim (text ++ []) = text := jsTrim_append
      ⟨text.head htext, List.head?_eq_some_head htext, hhead _ (List.head?_eq_some_head htext)⟩
      ⟨text.getLast htext, List.getLast?_eq_some_getLast htext,
        hlast _ (List.getLast?_eq_some_getLast htext)⟩ (List.forall_mem_nil _)
    rwa [List.append_nil] at htrim

theorem jsTrim_sublist (s : Text) : (jsTrim s).Sublist s :=
  (List.rdropWhile_prefix _ _).sublist.trans (List.dropWhile_sublist _)

theorem InventoryField.jsTrim_text (field : InventoryField) : jsTrim field.text = field.text :=
  jsTrim_eq_self field.head_not_space field.last_not_space

/-- An optional field, as it is read. -/
theorem orUndefined_field (field : Option InventoryField) :
    orUndefined (jsTrim ((field.map InventoryField.text).getD [])) =
      field.map InventoryField.text := by
  cases field with
  | none => rfl
  | some field =>
    change orUndefined (jsTrim field.text) = some field.text
    rw [field.jsTrim_text, orUndefined, if_neg field.ne_nil]

/-- The fields that are left out read as empty ones. -/
theorem getD_take {n : ℕ} {fields : List Text} (h : ∀ field ∈ fields.drop n, field = []) (i : ℕ) :
    (fields.take n).getD i [] = fields.getD i [] := by
  rw [List.getD_eq_getElem?_getD, List.getD_eq_getElem?_getD]
  by_cases hi : i < n
  · rw [List.getElem?_take_of_lt hi]
  · rw [List.getElem?_take_eq_none (not_lt.mp hi)]
    cases hfield : fields[i]? with
    | none => rfl
    | some field =>
      have hmem : field ∈ fields.drop n := by
        refine List.mem_of_getElem? (i := i - n) ?_
        rw [List.getElem?_drop, Nat.add_sub_cancel' (not_lt.mp hi), hfield]
      exact (h field hmem).symm

/-- **The line of a product without quotes is read as its row.** -/
theorem inventoryRow_of_writes (h : p.Writes line) (hquote : ∀ field ∈ p.fields, '"' ∉ field) :
    inventoryRow line = some p.row := by
  obtain ⟨n, ws, hn, hdrop, hwrites, rfl⟩ := h
  have hsplit : splitCsvLine (Csv.record ws) = p.fields.take n := by
    refine splitCsvLine_record hwrites ?_ fun field hfield =>
      hquote field (List.mem_of_mem_take hfield)
    intro hnil
    have hlength := congrArg List.length hnil
    rw [List.length_take] at hlength
    simp [InventoryProduct.fields] at hlength
    omega
  have hname : jsTrim ((p.fields.take n).getD 0 []) = p.name.text := by
    rw [getD_take hdrop]
    exact p.name.jsTrim_text
  have hversion : jsTrim ((p.fields.take n).getD 1 []) = p.version.text := by
    rw [getD_take hdrop]
    exact p.version.jsTrim_text
  have hvendor : orUndefined (jsTrim ((p.fields.take n).getD 2 [])) =
      p.vendor.map InventoryField.text := by
    rw [getD_take hdrop]
    exact orUndefined_field p.vendor
  have hcpe : orUndefined (jsTrim ((p.fields.take n).getD 3 [])) =
      p.cpeKeyword.map InventoryField.text := by
    rw [getD_take hdrop]
    exact orUndefined_field p.cpeKeyword
  unfold inventoryRow
  rw [hsplit]
  dsimp only
  rw [hname, hversion, hvendor, hcpe, if_neg (not_or.mpr ⟨p.name.ne_nil, p.version.ne_nil⟩)]
  rfl

/-- A line without quotes in its row. -/
theorem quote_not_mem_row {row : InventoryRow} (h : inventoryRow line = some row) :
    '"' ∉ row.name ∧ '"' ∉ row.version ∧ (∀ s ∈ row.vendor, '"' ∉ s) ∧
      ∀ s ∈ row.cpeKeyword, '"' ∉ s := by
  have hcol : ∀ i, '"' ∉ jsTrim ((splitCsvLine line).getD i []) := by
    intro i hmem
    have hget := (jsTrim_sublist _).mem hmem
    rw [List.getD_eq_getElem?_getD] at hget
    cases hcol : (splitCsvLine line)[i]? with
    | none =>
      rw [hcol] at hget
      cases hget
    | some col =>
      rw [hcol] at hget
      exact quote_not_mem_splitCsvLine line col (List.mem_of_getElem? hcol) hget
  have hoption : ∀ i, ∀ s ∈ orUndefined (jsTrim ((splitCsvLine line).getD i [])), '"' ∉ s := by
    intro i s hs
    rw [orUndefined] at hs
    split_ifs at hs
    · cases hs
    · obtain rfl := Option.some.inj hs
      exact hcol i
  unfold inventoryRow at h
  dsimp only at h
  split_ifs at h
  obtain rfl := Option.some.inj h
  exact ⟨hcol 0, hcol 1, hoption 2, hoption 3⟩

/-- A product that is read as a row without quotes has none. -/
theorem quote_not_mem_fields (h : inventoryRow line = some p.row) :
    ∀ field ∈ p.fields, '"' ∉ field := by
  obtain ⟨hname, hversion, hvendor, hcpe⟩ := quote_not_mem_row h
  have hoption : ∀ field : Option InventoryField,
      (∀ s ∈ field.map InventoryField.text, '"' ∉ s) →
        '"' ∉ (field.map InventoryField.text).getD [] := by
    intro field hfield
    cases field with
    | none => exact List.not_mem_nil
    | some field => exact hfield field.text rfl
  rw [InventoryProduct.fields]
  simp only [List.forall_mem_cons]
  exact ⟨hname, hversion, hoption _ hvendor, hoption _ hcpe, List.forall_mem_nil _⟩

/-! ### The loop over the lines -/

/-- The rows that the loop adds. -/
theorem rows_foldl_step (numbered : List (Text × ℕ)) (st : InventoryParse) :
    (numbered.foldl InventoryParse.step st).rows =
      st.rows ++ numbered.filterMap fun x => inventoryRow x.1 := by
  induction numbered generalizing st with
  | nil => exact (List.append_nil _).symm
  | cons x numbered ih =>
    rw [List.foldl_cons, ih, List.filterMap_cons]
    unfold InventoryParse.step
    cases inventoryRow x.1 with
    | none => rfl
    | some row => exact List.append_assoc _ _ _

/-- **The loop reads the rows**, if each line has one. -/
theorem foldl_step_of_rows {rows : List InventoryRow}
    (h : List.Forall₂ (fun row line => inventoryRow line = some row) rows lines) (k : ℕ)
    (st : InventoryParse) :
    (lines.zipIdx k).foldl InventoryParse.step st = ⟨st.rows ++ rows, st.errors⟩ := by
  induction h generalizing k st with
  | nil =>
    rw [List.append_nil]
    rfl
  | @cons row line rows lines hrow hrest ih =>
    have hstep : InventoryParse.step st (line, k) = ⟨st.rows ++ [row], st.errors⟩ := by
      unfold InventoryParse.step
      dsimp only
      rw [hrow]
    rw [List.zipIdx_cons, List.foldl_cons, hstep, ih, List.append_assoc]
    rfl

/-- **The lines that `parseCsv` goes over.** -/
theorem parseCsv_lines {first : Text} (htext : Csv.Lines (first :: lines) text)
    (hbreak : ∀ line ∈ first :: lines, ∀ c ∈ line, c ≠ '\n' ∧ c ≠ '\r')
    (hnil : ∀ line ∈ first :: lines, line ≠ [])
    (hhead : ∃ c ∈ first.head?, isJsSpace c = false)
    (hlast : ∃ last ∈ (first :: lines).getLast?, ∃ c ∈ last.getLast?, isJsSpace c = false) :
    parseCsv toLowerCase text =
      ((first :: lines).zipIdx.drop (if hinted toLowerCase first then 1 else 0)).foldl
        InventoryParse.step ⟨[], []⟩ := by
  obtain ⟨body, tail, rfl, htail, hsplit, hbodyHead, hbodyLast⟩ :=
    exists_body htext (List.cons_ne_nil _ _) hbreak hnil
  obtain ⟨last, hmem, hend⟩ := hlast
  have htrim : jsTrim (body ++ tail) = body := by
    refine jsTrim_append ?_ ?_ htail
    · rw [hbodyHead]
      exact hhead
    · rw [hbodyLast, Option.mem_def.mp hmem]
      exact hend
  have hfilter : (first :: lines).filter (fun line => !line.isEmpty) = first :: lines :=
    List.filter_eq_self.mpr fun line hline => by simpa using hnil line hline
  unfold parseCsv
  rw [htrim, hsplit, hfilter]

end Rows

/-! ### The lines of the products -/

section Products

variable {toLowerCase : Text → Text} {p : InventoryProduct} {line text : Text}
  {products : List InventoryProduct} {lines : List Text}

/-- A field of a product is one, or it is missing. -/
theorem InventoryProduct.field_cases : ∀ field ∈ p.fields,
    field = [] ∨ ∃ f : InventoryField, f.text = field := by
  have hoption : ∀ field : Option InventoryField,
      (field.map InventoryField.text).getD [] = [] ∨
        ∃ f : InventoryField, f.text = (field.map InventoryField.text).getD [] := by
    intro field
    cases field with
    | none => exact .inl rfl
    | some f => exact .inr ⟨f, rfl⟩
  rw [InventoryProduct.fields]
  simp only [List.forall_mem_cons]
  exact ⟨.inr ⟨p.name, rfl⟩, .inr ⟨p.version, rfl⟩, hoption p.vendor, hoption p.cpeKeyword,
    List.forall_mem_nil _⟩

/-- **The line of a product is one line.** -/
theorem InventoryProduct.Writes.no_break (h : p.Writes line) :
    ∀ c ∈ line, c ≠ '\n' ∧ c ≠ '\r' := by
  obtain ⟨n, ws, -, -, hwrites, rfl⟩ := h
  intro c hc
  rcases Csv.mem_record hc with rfl | ⟨w, hw, hcw⟩
  · decide
  · obtain ⟨field, hfield, hwrite⟩ := exists_of_forall₂ hwrites w hw
    rcases hwrite.mem_or hcw with hcell | rfl
    · rcases p.field_cases field (List.mem_of_mem_take hfield) with rfl | ⟨f, rfl⟩
      · cases hcell
      · exact f.no_break c hcell
    · decide

/-- It begins with no white space. -/
theorem InventoryProduct.Writes.head (h : p.Writes line) :
    ∃ c ∈ line.head?, isJsSpace c = false := by
  obtain ⟨n, ws, hn, -, hwrites, rfl⟩ := h
  obtain ⟨k, rfl⟩ := Nat.exists_eq_add_of_le' hn
  obtain ⟨w, ws', hname, -, rfl⟩ := List.forall₂_cons_left_iff.mp hwrites
  have hw : w ≠ [] := hname.ne_nil p.name.ne_nil
  rw [Csv.head_record hw]
  refine ⟨w.head hw, List.head?_eq_some_head hw, ?_⟩
  rcases hname.head_or (List.head?_eq_some_head hw) with hcell | hquote
  · exact p.name.head_not_space _ hcell
  · rw [hquote]
    decide

/-- And it ends with none. -/
theorem InventoryProduct.Writes.last (h : p.Writes line) :
    ∃ c ∈ line.getLast?, isJsSpace c = false := by
  obtain ⟨d, hd, -⟩ := h.head
  have hline : line ≠ [] := by
    rintro rfl
    cases hd
  obtain ⟨n, ws, -, -, hwrites, rfl⟩ := h
  refine ⟨_, List.getLast?_eq_some_getLast hline, ?_⟩
  rcases Csv.getLast_record (List.getLast?_eq_some_getLast hline) with hcomma | ⟨w, hw, hcw⟩
  · rw [hcomma]
    decide
  · obtain ⟨field, hfield, hwrite⟩ := exists_of_forall₂ hwrites w hw
    rcases hwrite.getLast_or hcw with hcell | hquote
    · rcases p.field_cases field (List.mem_of_mem_take hfield) with rfl | ⟨f, rfl⟩
      · cases hcell
      · exact f.last_not_space _ hcell
    · rw [hquote]
      decide

/-- **The products that are read**: no field has a quote, and the first line is no header. -/
structure InventoryReadable (toLowerCase : Text → Text) (products : List InventoryProduct)
    (lines : List Text) : Prop where
  quotes : ∀ p ∈ products, ∀ field ∈ p.fields, '"' ∉ field
  header : ∀ line ∈ lines.head?, hinted toLowerCase line = false

/-- **The loop over a file of products**, which may have another line first. -/
theorem parseCsv_products {first : Text} {rest : List Text}
    (hlines : List.Forall₂ InventoryProduct.Writes products lines) (hproducts : products ≠ [])
    (hfirst : lines = first :: rest ∨ rest = lines ∧ (∀ c ∈ first, c ≠ '\n' ∧ c ≠ '\r') ∧
      ∃ c ∈ first.head?, isJsSpace c = false)
    (htext : Csv.Lines (first :: rest) text) :
    parseCsv toLowerCase text =
      ((first :: rest).zipIdx.drop (if hinted toLowerCase first then 1 else 0)).foldl
        InventoryParse.step ⟨[], []⟩ := by
  have hwritten : ∀ line ∈ lines, ∃ p : InventoryProduct, p.Writes line := fun line hline =>
    (exists_of_forall₂ hlines line hline).imp fun _ h => h.2
  have hne : ∀ line : Text, (∃ c ∈ line.head?, isJsSpace c = false) → line ≠ [] := by
    rintro line ⟨c, hc, -⟩ rfl
    cases hc
  have hlast : ∃ last ∈ lines.getLast?, ∃ c ∈ last.getLast?, isJsSpace c = false := by
    have hlines_ne : lines ≠ [] := by
      rintro rfl
      cases hlines
      exact hproducts rfl
    obtain ⟨p, hp⟩ := hwritten _ (List.getLast_mem hlines_ne)
    exact ⟨_, List.getLast?_eq_some_getLast hlines_ne, hp.last⟩
  rcases hfirst with rfl | ⟨rfl, hbreak, hhead⟩
  · refine parseCsv_lines htext ?_ ?_ ?_ hlast
    · exact fun line hline => (hwritten line hline).elim fun _ hp => hp.no_break
    · exact fun line hline => (hwritten line hline).elim fun _ hp => hne line hp.head
    · exact (hwritten first List.mem_cons_self).elim fun _ hp => hp.head
  · refine parseCsv_lines htext ?_ ?_ hhead ?_
    · rw [List.forall_mem_cons]
      exact ⟨hbreak, fun line hline => (hwritten line hline).elim fun _ hp => hp.no_break⟩
    · rw [List.forall_mem_cons]
      exact ⟨hne first hhead,
        fun line hline => (hwritten line hline).elim fun _ hp => hne line hp.head⟩
    · obtain ⟨last, hmem, hend⟩ := hlast
      refine ⟨last, ?_, hend⟩
      cases rest with
      | nil => cases hmem
      | cons line rest => exact hmem

/-- **What is read without loss can be read**: its rows come from lines, whose fields have no quote,
and of these none is left out. -/
theorem inventoryReadable_of_foldl {first : Text} {rest : List Text}
    (hlines : List.Forall₂ InventoryProduct.Writes products (first :: rest))
    (hfold : (((first :: rest).zipIdx.drop (if hinted toLowerCase first then 1 else 0)).foldl
      InventoryParse.step ⟨[], []⟩).rows = products.map InventoryProduct.row) :
    InventoryReadable toLowerCase products (first :: rest) := by
  rw [rows_foldl_step, List.nil_append] at hfold
  refine ⟨fun p hp => ?_, fun line hline => ?_⟩
  · have hmem : p.row ∈ products.map InventoryProduct.row := List.mem_map_of_mem hp
    rw [← hfold] at hmem
    obtain ⟨x, -, hx⟩ := List.mem_filterMap.mp hmem
    exact quote_not_mem_fields hx
  · -- a header is one row less
    obtain rfl := Option.some.inj hline
    by_contra hhint
    rw [if_pos (by simpa using hhint)] at hfold
    have hle := List.length_filterMap_le (fun x : Text × ℕ => inventoryRow x.1)
      ((first :: rest).zipIdx.drop 1)
    rw [hfold, List.length_map, hlines.length_eq, List.length_drop, List.length_zipIdx,
      List.length_cons] at hle
    omega

/-- The lines of products that can be read have their rows. -/
theorem InventoryReadable.rows (h : InventoryReadable toLowerCase products lines)
    (hlines : List.Forall₂ InventoryProduct.Writes products lines) :
    List.Forall₂ (fun row line => inventoryRow line = some row)
      (products.map InventoryProduct.row) lines := by
  rw [List.forall₂_map_left_iff]
  exact ((List.forall₂_and_left _ _).mpr ⟨h.quotes, hlines⟩).imp fun _ _ hboth =>
    inventoryRow_of_writes hboth.2 hboth.1

/-- **The products are read** exactly if no field has a quote and the first line is no header. -/
theorem inventoryRoundTrips_iff (toLowerCase : Text → Text) (products : List InventoryProduct)
    (lines : List Text) (text : Text) (hproducts : products ≠ [])
    (hlines : List.Forall₂ InventoryProduct.Writes products lines)
    (htext : Csv.Lines lines text) :
    InventoryRoundTrips toLowerCase products text ↔
      InventoryReadable toLowerCase products lines := by
  obtain ⟨first, rest, rfl⟩ : ∃ first rest, lines = first :: rest := by
    cases hlines with
    | nil => exact absurd rfl hproducts
    | cons => exact ⟨_, _, rfl⟩
  have hparse : parseCsv toLowerCase text =
      ((first :: rest).zipIdx.drop (if hinted toLowerCase first then 1 else 0)).foldl
        InventoryParse.step ⟨[], []⟩ := parseCsv_products hlines hproducts (.inl rfl) htext
  constructor
  · rintro ⟨hread, -⟩
    exact inventoryReadable_of_foldl hlines (by rw [← hparse, hread])
  · intro h
    constructor
    · rw [hparse, if_neg (by simp [h.header first rfl]), List.drop_zero]
      exact foldl_step_of_rows (h.rows hlines) 0 ⟨[], []⟩
    · intro header end_ hend
      rw [parseCsv_products hlines hproducts (.inr ⟨rfl, header.no_break, header.starts⟩)
        (.cons header.text hend htext), if_pos header.is_hinted]
      exact foldl_step_of_rows (h.rows hlines) 1 ⟨[], []⟩

/-- A field, of a text that is checked. -/
def InventoryField.ofText (text : Text) (h : text ≠ [] ∧
    (text.all fun c => decide (c ≠ '\n' ∧ c ≠ '\r')) = true ∧
    (text.head?.all fun c => !isJsSpace c) = true ∧
    (text.getLast?.all fun c => !isJsSpace c) = true) : InventoryField where
  text := text
  ne_nil := h.1
  no_break c hc := of_decide_eq_true (List.all_eq_true.mp h.2.1 c hc)
  head_not_space c hc := by simpa using (Option.all_eq_true _ _).mp h.2.2.1 c hc
  last_not_space c hc := by simpa using (Option.all_eq_true _ _).mp h.2.2.2 c hc

/-- A product with a name and a version. -/
def InventoryProduct.ofName (name : InventoryField) : InventoryProduct :=
  ⟨name, .ofText "1.0".toList (by decide), none, none⟩

theorem inventoryRoundTrips_nginx : InventoryRoundTrips (List.map Char.toLower)
    [.ofName (.ofText "nginx, mainline".toList (by decide))]
    "\"nginx, mainline\",1.0\r\n".toList := by
  refine (inventoryRoundTrips_iff _ _ ["\"nginx, mainline\",1.0".toList] _ (List.cons_ne_nil _ _)
    (.cons ⟨2, ["\"nginx, mainline\"".toList, "1.0".toList], le_rfl, ?_,
      .cons .quoted (.cons (.of_all (by decide)) .nil), rfl⟩ .nil) ?_).mpr ⟨?_, ?_⟩
  · decide
  · exact .cons _ (.inr rfl) .nil
  · decide
  · decide

/-- **A quote in a name is lost, and a product that is called one is taken for a header.** -/
theorem not_inventoryRoundTrips_quote :
    ¬InventoryRoundTrips (List.map Char.toLower)
        [.ofName (.ofText "3.5\" drive".toList (by decide))] "\"3.5\"\" drive\",1.0".toList ∧
      ¬InventoryRoundTrips (List.map Char.toLower)
        [.ofName (.ofText "Productivity".toList (by decide))] "Productivity,1.0".toList := by
  constructor
  · rintro ⟨hread, -⟩
    have hnames := congrArg (fun parsed => parsed.rows.map InventoryRow.name) hread
    revert hnames
    decide
  · rintro ⟨hread, -⟩
    have hnames := congrArg (fun parsed => parsed.rows.map InventoryRow.name) hread
    revert hnames
    decide

end Products

end CveManagement
