import Mathlib.Data.List.Forall2

/-!
# Comma-separated values

A field is written as it is, if it has no comma, no quote and no line break, or between quotes, with
its own quotes doubled (`Csv.Writes`). Fields are joined by commas, and records by line breaks.

A reader goes over the characters one by one. Outside quotes a carriage return, a line feed, and the
one followed by the other end a record; the last record may end without one. `Csv.read_document`
says that what is written is read, and `Csv.flatten_sublist_kept` what becomes of fields that are
not written as they should be: they lose their carriage returns.
-/

namespace Csv

/-! ### Writing -/

/-- The characters for which a field is quoted. -/
def special : List Char := [',', '"', '\n', '\r']

/-- A field with its quotes doubled. -/
def doubled (cell : List Char) : List Char :=
  cell.flatMap fun c => if c = '"' then ['"', '"'] else [c]

/-- A field between quotes. -/
def quoted (cell : List Char) : List Char := '"' :: (doubled cell ++ ['"'])

/-- **The ways to write a field.** -/
inductive Writes (cell : List Char) : List Char → Prop
  /-- As it is. -/
  | plain (h : ∀ c ∈ cell, c ∉ special) : Writes cell cell
  /-- Between quotes. -/
  | quoted : Writes cell (quoted cell)

/-- A text in which a search finds nothing special. -/
theorem Writes.of_all {cell : List Char} (h : (cell.all fun c => decide (c ∉ special)) = true) :
    Writes cell cell :=
  .plain fun c hc => of_decide_eq_true (List.all_eq_true.mp h c hc)

/-- Fields, joined. -/
def record (fields : List (List Char)) : List Char := [','].intercalate fields

/-- Records, joined. -/
def document (records : List (List (List Char))) : List Char :=
  ['\n'].intercalate (records.map record)

/-- **The ways to write lines one after another**: each ends with a line feed, which may have a
carriage return before it, and the last one need not. -/
inductive Lines : List (List Char) → List Char → Prop
  | nil : Lines [] []
  | last (line : List Char) : Lines [line] line
  | cons (line : List Char) {end_ : List Char} (h : end_ = ['\n'] ∨ end_ = ['\r', '\n'])
      {lines : List (List Char)} {text : List Char} (hrest : Lines lines text) :
      Lines (line :: lines) (line ++ end_ ++ text)

@[simp] theorem doubled_nil : doubled [] = [] := rfl

@[simp] theorem doubled_cons (c : Char) (cell : List Char) :
    doubled (c :: cell) = (if c = '"' then ['"', '"'] else [c]) ++ doubled cell := rfl

theorem mem_doubled {c : Char} {cell : List Char} : c ∈ doubled cell ↔ c ∈ cell := by
  induction cell with
  | nil => rfl
  | cons a cell ih =>
    rw [doubled_cons, List.mem_append, ih, List.mem_cons]
    split_ifs with ha <;> simp [ha]

/-- A field without quotes has none to double. -/
theorem doubled_eq_self {cell : List Char} (h : '"' ∉ cell) : doubled cell = cell := by
  induction cell with
  | nil => rfl
  | cons c cell ih =>
    rw [List.mem_cons, not_or] at h
    rw [doubled_cons, if_neg (Ne.symm h.1), ih h.2]
    rfl

@[simp] theorem record_singleton (field : List Char) : record [field] = field :=
  List.intercalate_singleton

theorem record_cons (field : List Char) {fields : List (List Char)} (h : fields ≠ []) :
    record (field :: fields) = field ++ ',' :: record fields := by
  rw [record, List.intercalate_cons_of_ne_nil h, List.append_assoc]
  rfl

@[simp] theorem document_singleton (fields : List (List Char)) :
    document [fields] = record fields := List.intercalate_singleton

theorem document_cons (fields : List (List Char)) {records : List (List (List Char))}
    (h : records ≠ []) :
    document (fields :: records) = record fields ++ '\n' :: document records := by
  rw [document, List.map_cons, List.intercalate_cons_of_ne_nil (by simpa using h),
    List.append_assoc]
  rfl

section Characters

variable {c : Char} {cell written : List Char} {fields : List (List Char)}

/-- A field is written with its own characters and quotes. -/
theorem Writes.mem_or (h : Writes cell written) (hc : c ∈ written) : c ∈ cell ∨ c = '"' := by
  cases h with
  | plain => exact .inl hc
  | quoted =>
    rw [Csv.quoted, List.mem_cons, List.mem_append, mem_doubled, List.mem_singleton] at hc
    rcases hc with rfl | hcell | rfl
    · exact .inr rfl
    · exact .inl hcell
    · exact .inr rfl

theorem Writes.ne_nil (h : Writes cell written) (hcell : cell ≠ []) : written ≠ [] := by
  cases h with
  | plain => exact hcell
  | quoted => exact List.cons_ne_nil _ _

/-- It begins as it does without quotes. -/
theorem Writes.head_or (h : Writes cell written) (hc : c ∈ written.head?) :
    c ∈ cell.head? ∨ c = '"' := by
  cases h with
  | plain => exact .inl hc
  | quoted => exact .inr (Option.some.inj hc).symm

/-- And it ends so. -/
theorem Writes.getLast_or (h : Writes cell written) (hc : c ∈ written.getLast?) :
    c ∈ cell.getLast? ∨ c = '"' := by
  cases h with
  | plain => exact .inl hc
  | quoted =>
    have hlast : (Csv.quoted cell).getLast? = some '"' := by
      rw [Csv.quoted, ← List.cons_append, List.getLast?_concat]
    rw [hlast] at hc
    exact .inr (Option.some.inj hc).symm

/-- A record has the characters of its fields and commas. -/
theorem mem_record (hc : c ∈ record fields) : c = ',' ∨ ∃ field ∈ fields, c ∈ field := by
  induction fields with
  | nil => cases hc
  | cons field fields ih =>
    by_cases hfields : fields = []
    · subst hfields
      rw [record_singleton] at hc
      exact .inr ⟨field, List.mem_singleton_self _, hc⟩
    · rw [record_cons _ hfields, List.mem_append, List.mem_cons] at hc
      rcases hc with hfield | rfl | hrest
      · exact .inr ⟨field, List.mem_cons_self, hfield⟩
      · exact .inl rfl
      · exact (ih hrest).imp_right fun ⟨field', hmem, hc'⟩ =>
          ⟨field', List.mem_cons_of_mem _ hmem, hc'⟩

/-- A record ends as one of its fields does, or with a comma. -/
theorem getLast_record (hc : c ∈ (record fields).getLast?) :
    c = ',' ∨ ∃ field ∈ fields, c ∈ field.getLast? := by
  induction fields with
  | nil => cases hc
  | cons field fields ih =>
    by_cases hfields : fields = []
    · subst hfields
      rw [record_singleton] at hc
      exact .inr ⟨field, List.mem_singleton_self _, hc⟩
    · rw [record_cons _ hfields, List.getLast?_append_of_ne_nil _ (List.cons_ne_nil _ _)] at hc
      by_cases hrecord : record fields = []
      · rw [hrecord] at hc
        exact .inl (Option.some.inj hc).symm
      · rw [List.getLast?_cons_of_ne_nil hrecord] at hc
        exact (ih hc).imp_right fun ⟨field', hmem, hc'⟩ =>
          ⟨field', List.mem_cons_of_mem _ hmem, hc'⟩

/-- A record begins as its first field does, if there is something of it. -/
theorem head_record (h : cell ≠ []) : (record (cell :: fields)).head? = cell.head? := by
  by_cases hfields : fields = []
  · rw [hfields, record_singleton]
  · rw [record_cons _ hfields, List.head?_append_of_ne_nil _ h]

end Characters

/-! ### Reading -/

/-- Where a reader stands. -/
inductive Place
  /-- Before a record. -/
  | fresh
  /-- Before a record, after a carriage return to which a line feed belongs. -/
  | returned
  /-- After a comma. -/
  | comma
  /-- In a field that is not quoted. -/
  | bare
  /-- Between quotes. -/
  | inside
  /-- After a quote that ends a field, or is the first of two. -/
  | closed
  /-- After what cannot be read. -/
  | broken
  deriving DecidableEq

/-- A reader, with what it has read. -/
structure Reader where
  place : Place
  field : List Char
  fields : List (List Char)
  records : List (List (List Char))

namespace Reader

/-- Before the first record. -/
def start : Reader := ⟨.fresh, [], [], []⟩

/-- A reader that goes on elsewhere. -/
def goTo (r : Reader) (place : Place) : Reader := { r with place := place }

/-- A character of a field. -/
def keep (r : Reader) (place : Place) (c : Char) : Reader :=
  { r with place := place, field := r.field ++ [c] }

/-- The end of a field. -/
def endField (r : Reader) : Reader := ⟨.comma, [], r.fields ++ [r.field], r.records⟩

/-- The end of a record. -/
def endRecord (r : Reader) (place : Place) : Reader :=
  ⟨place, [], [], r.records ++ [r.fields ++ [r.field]]⟩

/-- A character outside quotes: a separator, or another one. -/
def separate (r : Reader) (c : Char) (otherwise : Reader) : Reader :=
  if c = ',' then r.endField
  else if c = '\n' then r.endRecord .fresh
  else if c = '\r' then r.endRecord .returned
  else otherwise

/-- A character where a field may begin. -/
def begin (r : Reader) (c : Char) : Reader :=
  if c = '"' then r.goTo .inside else r.separate c (r.keep .bare c)

/-- **One character.** -/
def step (r : Reader) (c : Char) : Reader :=
  match r.place with
  | .fresh => r.begin c
  | .returned => if c = '\n' then r.goTo .fresh else r.begin c
  | .comma => r.begin c
  | .bare => if c = '"' then r.goTo .broken else r.separate c (r.keep .bare c)
  | .inside => if c = '"' then r.goTo .closed else r.keep .inside c
  | .closed => if c = '"' then r.keep .inside c else r.separate c (r.goTo .broken)
  | .broken => r

/-- A text. -/
def run (r : Reader) (text : List Char) : Reader := text.foldl step r

/-- What has been read at the end, unless a quote is open or a character out of place. -/
def result (r : Reader) : Option (List (List (List Char))) :=
  match r.place with
  | .fresh => some r.records
  | .returned => some r.records
  | .inside => none
  | .broken => none
  | _ => some (r.records ++ [r.fields ++ [r.field]])

@[simp] theorem run_nil (r : Reader) : r.run [] = r := rfl

@[simp] theorem run_cons (r : Reader) (c : Char) (text : List Char) :
    r.run (c :: text) = (r.step c).run text := rfl

theorem run_append (r : Reader) (text text' : List Char) :
    r.run (text ++ text') = (r.run text).run text' := List.foldl_append

end Reader

/-- **Reading a text.** -/
def read (text : List Char) : Option (List (List (List Char))) := (Reader.start.run text).result

/-! ### What is written is read -/

/-- Where a field begins that is written here. -/
def Place.begins : Place → Bool
  | .fresh => true
  | .comma => true
  | _ => false

/-- Where a field can end. -/
def Place.ends : Place → Bool
  | .inside => false
  | .broken => false
  | _ => true

/-- Where a field can go on without quotes. -/
def Place.loose : Place → Bool
  | .fresh => true
  | .returned => true
  | .comma => true
  | .bare => true
  | _ => false

theorem Place.loose_of_begins {p : Place} (h : p.begins = true) : p.loose = true := by
  cases p <;> first | rfl | cases h

theorem Place.ends_of_loose {p : Place} (h : p.loose = true) : p.ends = true := by
  cases p <;> first | rfl | cases h

namespace Reader

variable {r : Reader}

theorem step_begin (h : r.place.begins = true) (c : Char) : r.step c = r.begin c := by
  unfold step
  cases hplace : r.place <;> rw [hplace] at h <;> first | rfl | cases h

/-- A comma ends a field. -/
theorem step_comma (h : r.place.ends = true) : r.step ',' = r.endField := by
  unfold step
  cases hplace : r.place <;> rw [hplace] at h <;> first | rfl | cases h

/-- A line feed ends a record, or belongs to the carriage return that did. -/
theorem step_newline (h : r.place.ends = true) :
    r.step '\n' = if r.place = .returned then r.goTo .fresh else r.endRecord .fresh := by
  unfold step
  cases hplace : r.place <;> rw [hplace] at h <;> first | rfl | cases h

/-- A carriage return ends a record. -/
theorem step_return (h : r.place.loose = true) : r.step '\r' = r.endRecord .returned := by
  unfold step
  cases hplace : r.place <;> rw [hplace] at h <;> first | rfl | cases h

/-- **Between quotes** a field is read with its quotes halved. -/
theorem run_doubled (h : r.place = .inside) (cell : List Char) :
    r.run (doubled cell) = { r with field := r.field ++ cell } := by
  obtain ⟨place, field, fields, records⟩ := r
  obtain rfl : place = .inside := h
  induction cell generalizing field with
  | nil => simp
  | cons c cell ih =>
    rw [doubled_cons, run_append]
    have hstep : run ⟨.inside, field, fields, records⟩ (if c = '"' then ['"', '"'] else [c]) =
        ⟨.inside, field ++ [c], fields, records⟩ := by
      split_ifs with hc
      · rw [hc]
        rfl
      · rw [run_cons, run_nil, step]
        exact if_neg hc
    rw [hstep, ih, List.append_assoc]
    rfl

theorem run_quoted (h : r.place.begins = true) (cell : List Char) :
    r.run (quoted cell) = { r with place := .closed, field := r.field ++ cell } := by
  rw [quoted, run_cons, step_begin h, run_append, begin, if_pos rfl, run_doubled rfl]
  rfl

/-- A character that is not special is kept. -/
theorem step_plain (h : r.place.loose = true) {c : Char} (hc : c ∉ special) :
    r.step c = r.keep .bare c := by
  simp only [special, List.mem_cons, List.not_mem_nil, or_false, not_or] at hc
  obtain ⟨hcomma, hquote, hnewline, hreturn⟩ := hc
  have hbegin : r.begin c = r.keep .bare c := by
    rw [begin, if_neg hquote, separate, if_neg hcomma, if_neg hnewline, if_neg hreturn]
  unfold step
  cases hplace : r.place with
  | fresh => exact hbegin
  | returned => exact (if_neg hnewline).trans hbegin
  | comma => exact hbegin
  | bare =>
    dsimp only
    rw [if_neg hquote, separate, if_neg hcomma, if_neg hnewline, if_neg hreturn]
  | _ => rw [hplace] at h; cases h

/-- **Without quotes** a field is read as it is. -/
theorem run_plain (h : r.place.loose = true) {cell : List Char} (hcell : ∀ c ∈ cell, c ∉ special) :
    r.run cell =
      { r with place := if cell = [] then r.place else .bare, field := r.field ++ cell } := by
  obtain ⟨place, field, fields, records⟩ := r
  induction cell generalizing place field with
  | nil => simp
  | cons c cell ih =>
    rw [List.forall_mem_cons] at hcell
    rw [run_cons, step_plain h hcell.1, keep, ih hcell.2 .bare _ rfl, List.append_assoc]
    simp

/-- **A field that is written is read**, and the reader stands before a record afterwards only if
nothing was written there. -/
theorem run_writes (h : r.place.begins = true) (hfield : r.field = []) {cell written : List Char}
    (hwrites : Writes cell written) :
    ∃ p, p.ends = true ∧ p ≠ .returned ∧ (p = .fresh ↔ r.place = .fresh ∧ written = []) ∧
      r.run written = { r with place := p, field := cell } := by
  cases hwrites with
  | plain hplain =>
    refine ⟨if cell = [] then r.place else .bare, ?_⟩
    rw [run_plain (Place.loose_of_begins h) hplain, hfield]
    by_cases hcell : cell = []
    · rw [if_pos hcell]
      refine ⟨Place.ends_of_loose (Place.loose_of_begins h), fun heq => ?_, by simp [hcell], rfl⟩
      rw [heq] at h
      cases h
    · rw [if_neg hcell]
      exact ⟨rfl, by decide, by simp [hcell], rfl⟩
  | quoted =>
    refine ⟨.closed, rfl, by decide, by simp [quoted], ?_⟩
    rw [run_quoted h, hfield]
    rfl

/-- **A record that is written is read**: what is left of it is its last field. -/
theorem run_record (h : r.place.begins = true) (hfield : r.field = [])
    {cells written : List (List Char)} (hwrites : List.Forall₂ Writes cells written)
    (hcells : cells ≠ []) :
    ∃ p fields field, p.ends = true ∧ p ≠ .returned ∧
      (p = .fresh ↔ r.place = .fresh ∧ written = [[]]) ∧ fields ++ [field] = r.fields ++ cells ∧
      r.run (record written) = ⟨p, field, fields, r.records⟩ := by
  induction hwrites generalizing r with
  | nil => exact absurd rfl hcells
  | @cons cell w cells written hcell hrest ih =>
    obtain ⟨p, hends, hreturned, hfresh, hrun⟩ := run_writes h hfield hcell
    cases hrest with
    | nil =>
      refine ⟨p, r.fields, cell, hends, hreturned, ?_, rfl, ?_⟩
      · rw [hfresh, List.cons_eq_cons, and_iff_left rfl]
      · rw [record_singleton, hrun]
    | @cons cell' w' cells' written' hcell' hrest' =>
      -- the comma ends the field, and the rest is read from there
      have hcomma : (r.run w).step ',' = ⟨.comma, [], r.fields ++ [cell], r.records⟩ := by
        rw [hrun, step_comma hends]
        rfl
      obtain ⟨p', fields, field, hends', hreturned', hfresh', hfields, hrun'⟩ :=
        ih (r := ⟨.comma, [], r.fields ++ [cell], r.records⟩) rfl rfl (List.cons_ne_nil _ _)
      refine ⟨p', fields, field, hends', hreturned', ?_, ?_, ?_⟩
      · rw [hfresh']
        simp
      · rw [hfields, List.append_assoc]
        rfl
      · rw [record_cons _ (List.cons_ne_nil _ _), run_append, run_cons, hcomma, hrun']

/-- At the end of a field, the record has this field too. -/
theorem result_of_ends (hends : r.place.ends = true) (hfresh : r.place ≠ .fresh)
    (hreturned : r.place ≠ .returned) :
    r.result = some (r.records ++ [r.fields ++ [r.field]]) := by
  unfold result
  cases hplace : r.place with
  | fresh => exact absurd hplace hfresh
  | returned => exact absurd hplace hreturned
  | inside => rw [hplace] at hends; cases hends
  | broken => rw [hplace] at hends; cases hends
  | _ => rfl

/-- **Records that are written are read**, but for a last one that is nothing at all. -/
theorem run_document {records : List (List (List Char))} {written : List (List (List Char))}
    (hwrites : List.Forall₂ (List.Forall₂ Writes) records written)
    (hcells : ∀ cells ∈ records, cells ≠ []) {done : List (List (List Char))} :
    (run ⟨.fresh, [], [], done⟩ (document written)).result =
      some (done ++ if written.getLast? = some [[]] then records.dropLast else records) := by
  induction hwrites generalizing done with
  | nil =>
    change some done = _
    simp
  | @cons cells w records written hrecord hrest ih =>
    rw [List.forall_mem_cons] at hcells
    obtain ⟨p, fields, field, hends, hreturned, hfresh, hfields, hrun⟩ :=
      run_record (r := ⟨.fresh, [], [], done⟩) rfl rfl hrecord hcells.1
    dsimp only at hfields hfresh hrun
    rw [List.nil_append] at hfields
    rw [eq_self, true_and] at hfresh
    cases hrest with
    | nil =>
      rw [document_singleton, hrun]
      by_cases hblank : w = [[]]
      · rw [hfresh.mpr hblank, hblank]
        simp [result]
      · rw [result_of_ends hends (fun heq => hblank (hfresh.mp heq)) hreturned]
        simp [hfields, hblank]
    | @cons cells' w' records' written' hrecord' hrest' =>
      -- the line feed ends the record
      have hnewline : (Reader.mk p field fields done).step '\n' =
          ⟨.fresh, [], [], done ++ [cells]⟩ := by
        rw [step_newline hends, if_neg hreturned, ← hfields]
        rfl
      rw [document_cons _ (List.cons_ne_nil _ _), run_append, run_cons, hrun, hnewline,
        ih hcells.2, List.getLast?_cons_cons]
      split_ifs <;> simp

end Reader

/-- **What is written is read**, but for a last record that is nothing at all. -/
theorem read_document {records written : List (List (List Char))}
    (hwrites : List.Forall₂ (List.Forall₂ Writes) records written)
    (hcells : ∀ cells ∈ records, cells ≠ []) :
    read (document written) =
      some (if written.getLast? = some [[]] then records.dropLast else records) :=
  Reader.run_document hwrites hcells

example : read "a,\"b\"\"c\"\r\nd,".toList =
    some [["a".toList, "b\"c".toList], ["d".toList, []]] := by decide

/-! ### What is not written as it should be -/

namespace Reader

variable {r : Reader}

/-- All the characters that have been read and kept. -/
def text (r : Reader) : List Char := r.records.flatten.flatten ++ r.fields.flatten ++ r.field

theorem text_goTo (p : Place) : (r.goTo p).text = r.text := rfl

theorem text_keep (p : Place) (c : Char) : (r.keep p c).text = r.text ++ [c] := by
  rw [text, text, List.append_assoc _ _ [c]]
  rfl

theorem text_endField : r.endField.text = r.text := by
  simp [text, endField]

theorem text_endRecord (p : Place) : (r.endRecord p).text = r.text := by
  simp [text, endRecord]

/-- A text is read as what is kept of it, from where a field may begin to where it can end. -/
def Leaves (written kept : List Char) : Prop :=
  ∀ r : Reader, r.place.begins = true →
    (r.run written).place.ends = true ∧ (r.run written).text = r.text ++ kept

/-- **A quoted field is kept.** -/
theorem leaves_quoted (cell : List Char) : Leaves (quoted cell) cell := by
  intro r h
  rw [run_quoted h]
  exact ⟨rfl, (List.append_assoc _ _ _).symm⟩

/-- **Another field loses its carriage returns**, if it has no other special character. -/
theorem leaves_bare {cell : List Char} (hcell : ∀ c ∈ cell, c ∈ special → c = '\r') :
    Leaves cell (cell.filter (· ≠ '\r')) := by
  have hloose : ∀ r : Reader, r.place.loose = true →
      (r.run cell).place.loose = true ∧
        (r.run cell).text = r.text ++ cell.filter (· ≠ '\r') := by
    induction cell with
    | nil =>
      intro r h
      rw [run_nil, List.filter_nil, List.append_nil]
      exact ⟨h, rfl⟩
    | cons c cell ih =>
      rw [List.forall_mem_cons] at hcell
      intro r h
      by_cases hc : c = '\r'
      · obtain ⟨hplace, htext⟩ := ih hcell.2 (r.endRecord .returned) rfl
        rw [run_cons, hc, step_return h, htext, text_endRecord, List.filter_cons_of_neg (by simp)]
        exact ⟨hplace, rfl⟩
      · have hspecial : c ∉ special := fun hmem => hc (hcell.1 hmem)
        obtain ⟨hplace, htext⟩ := ih hcell.2 (r.keep .bare c) rfl
        rw [run_cons, step_plain h hspecial, htext, text_keep,
          List.filter_cons_of_pos (by simp [hc]), List.append_assoc]
        exact ⟨hplace, rfl⟩
  intro r h
  obtain ⟨hplace, htext⟩ := hloose r (Place.loose_of_begins h)
  exact ⟨Place.ends_of_loose hplace, htext⟩

/-- The fields of a record are kept one by one. -/
theorem leaves_record {written kept : List (List Char)} (h : List.Forall₂ Leaves written kept) :
    Leaves (record written) kept.flatten := by
  induction h with
  | nil =>
    intro r hr
    exact ⟨Place.ends_of_loose (Place.loose_of_begins hr), (List.append_nil _).symm⟩
  | @cons w k written kept hfirst hrest ih =>
    cases hrest with
    | nil => simpa using hfirst
    | cons hsecond hrest' =>
      intro r hr
      obtain ⟨hends, htext⟩ := hfirst r hr
      rw [record_cons _ (List.cons_ne_nil _ _), run_append, run_cons, step_comma hends]
      obtain ⟨hends', htext'⟩ := ih (r.run w).endField rfl
      rw [htext', text_endField, htext, List.append_assoc]
      exact ⟨hends', rfl⟩

/-- And so are the records of a document. -/
theorem leaves_document {written kept : List (List (List Char))}
    (h : List.Forall₂ (List.Forall₂ Leaves) written kept) :
    Leaves (document written) kept.flatten.flatten := by
  induction h with
  | nil =>
    intro r hr
    exact ⟨Place.ends_of_loose (Place.loose_of_begins hr), (List.append_nil _).symm⟩
  | @cons w k written kept hfirst hrest ih =>
    cases hrest with
    | nil => simpa using leaves_record hfirst
    | cons hsecond hrest' =>
      intro r hr
      obtain ⟨hends, htext⟩ := leaves_record hfirst r hr
      -- after the line feed a record begins, and nothing of the text is lost
      have hstep : ((r.run (record w)).step '\n').place.begins = true ∧
          ((r.run (record w)).step '\n').text = (r.run (record w)).text := by
        rw [step_newline hends]
        split_ifs
        · exact ⟨rfl, text_goTo _⟩
        · exact ⟨rfl, text_endRecord _⟩
      rw [document_cons _ (List.cons_ne_nil _ _), run_append, run_cons]
      obtain ⟨hends', htext'⟩ := ih _ hstep.1
      refine ⟨hends', ?_⟩
      simp [htext', hstep.2, htext]

theorem flatten_sublist_text {records : List (List (List Char))} (h : r.result = some records) :
    records.flatten.flatten.Sublist r.text := by
  have hdone : r.records.flatten.flatten.Sublist r.text := by
    rw [text, List.append_assoc]
    exact List.sublist_append_left _ _
  have hlast : (r.records ++ [r.fields ++ [r.field]]).flatten.flatten.Sublist r.text := by
    simp [text]
  unfold result at h
  split at h <;> cases h
  · exact hdone
  · exact hdone
  · exact hlast

/-- A character ends one record at most. -/
theorem records_step (c : Char) : (r.step c).records = r.records ∨
    (r.step c).records = r.records ++ [r.fields ++ [r.field]] := by
  have hseparate : ∀ otherwise : Reader, otherwise.records = r.records →
      (r.separate c otherwise).records = r.records ∨
        (r.separate c otherwise).records = r.records ++ [r.fields ++ [r.field]] := by
    intro otherwise hotherwise
    unfold separate
    split_ifs
    · exact .inl rfl
    · exact .inr rfl
    · exact .inr rfl
    · exact .inl hotherwise
  have hbegin : (r.begin c).records = r.records ∨
      (r.begin c).records = r.records ++ [r.fields ++ [r.field]] := by
    unfold begin
    split_ifs
    · exact .inl rfl
    · exact hseparate _ rfl
  unfold step
  split
  · exact hbegin
  · split_ifs
    · exact .inl rfl
    · exact hbegin
  · exact hbegin
  · split_ifs
    · exact .inl rfl
    · exact hseparate _ rfl
  · split_ifs <;> exact .inl rfl
  · split_ifs
    · exact .inl rfl
    · exact hseparate _ rfl
  · exact .inl rfl

/-- **A record has a field**, however it has been read. -/
theorem records_ne_nil (text : List Char) (h : ∀ fields ∈ r.records, fields ≠ []) :
    ∀ fields ∈ (r.run text).records, fields ≠ [] := by
  induction text generalizing r with
  | nil => exact h
  | cons c text ih =>
    refine ih fun fields hfields => ?_
    rcases records_step (r := r) c with hrecords | hrecords
    · rw [hrecords] at hfields
      exact h fields hfields
    · rw [hrecords, List.mem_append, List.mem_singleton] at hfields
      rcases hfields with hold | rfl
      · exact h fields hold
      · simp

end Reader

/-- **No more is read than is kept.** -/
theorem flatten_sublist_kept {written kept records : List (List (List Char))}
    (h : List.Forall₂ (List.Forall₂ Reader.Leaves) written kept)
    (hread : read (document written) = some records) :
    records.flatten.flatten.Sublist kept.flatten.flatten := by
  obtain ⟨-, htext⟩ := Reader.leaves_document h Reader.start rfl
  have hsublist := Reader.flatten_sublist_text hread
  rwa [htext] at hsublist

/-- **A record that is read has a field.** -/
theorem ne_nil_of_read {text : List Char} {records : List (List (List Char))}
    (hread : read text = some records) : ∀ fields ∈ records, fields ≠ [] := by
  have hdone := Reader.records_ne_nil (r := Reader.start) text fun _ hfields => by cases hfields
  unfold read Reader.result at hread
  split at hread <;> cases hread
  · exact hdone
  · exact hdone
  · intro fields hfields
    rw [List.mem_append, List.mem_singleton] at hfields
    rcases hfields with hold | rfl
    · exact hdone fields hold
    · simp

end Csv
