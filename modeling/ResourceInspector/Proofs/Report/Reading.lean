import ResourceInspector.Proofs.Json.Reader
import ResourceInspector.Proofs.Report.Lines
/-!
# Reading the standard form

Where the scalars are texts on one line, the standard form of a collection can be read back
(`read_standard`), so that no other such value has it (`standard_unambiguous`). The lines tell their
rows, and of the rows what belongs to a part is what lies deeper, up to the next row of the same
depth. Collections have to have parts: an empty one looks the same as an array and as an object. And
the text has to end with a character that is not blank, since blanks at its end are taken away.
That the names of an object are in order is no restriction for values that were read
(`Json.ordered_of_parse?`).
-/

namespace ResourceInspector.Report

open Json (Entry Key)

/-! ## The reader -/

/-- The collection with parts under some labels. -/
def assemble (parts : List (String × Json)) : Json :=
  match parts with
  | ("-", _) :: _ => .array (parts.map (·.2))
  | _ => .object (parts.map fun (label, value) => (String.ofList label.toList.dropLast, value))

/-- The parts that rows tell of. A part without a text is a collection, and its own parts are told
of by the deeper rows that follow. -/
def readParts : List Row → List (String × Json)
  | [] => []
  | row :: rest =>
    let below := readParts (rest.takeWhile (row.depth < ·.depth))
    (row.label, (row.text.map Json.string).getD (assemble below)) ::
      readParts (rest.dropWhile (row.depth < ·.depth))
termination_by rows => rows.length
decreasing_by
  · exact Nat.lt_succ_of_le (List.takeWhile_sublist _).length_le
  · exact Nat.lt_succ_of_le (List.dropWhile_sublist _).length_le

/-- The collection that a standard form shows. -/
def read (text : String) : Json :=
  assemble (readParts ((Text.fields '\n' text).map Row.ofLine))

/-! ## Structured texts -/

/-- A name whose label is kept together on its line. -/
def PlainKey : Key → Prop
  | .item _ => True
  | .member name => ' ' ∉ name.toList ∧ '\n' ∉ name.toList

/-- Texts without line feeds, and collections of them of any depth, none of which is empty. -/
inductive Structured : Json → Prop
  | text {s : String} : '\n' ∉ s.toList → Structured (.string s)
  | collection {value : Json} : value.parts ≠ [] →
      (∀ key part, (key, part) ∈ value.parts → PlainKey key) →
      (∀ key part, (key, part) ∈ value.parts → Structured part) → Structured value

/-- The text that is shown last. -/
inductive LastText (s : String) : Json → Prop
  | text : LastText s (.string s)
  | part {value : Json} {key : Key} {part : Json} : value.parts.getLast? = some (key, part) →
      LastText s part → LastText s value

/-- A collection of structured texts whose standard form ends with a character that is not blank. -/
structure Legible (value : Json) : Prop where
  structured : Structured value
  nonempty : value.parts ≠ []
  ends : ∃ s last, LastText s value ∧ s.toList.getLast? = some last ∧ Text.isBlank last = false

section

variable {value part : Json} {key : Key}

theorem Structured.array {items : List Json} (hne : items ≠ [])
    (hitems : ∀ item ∈ items, Structured item) : Structured (.array items) := by
  refine .collection (by simpa [Json.parts] using hne) ?_ ?_
  · intro key part hpart
    obtain ⟨index, rfl, -⟩ := Json.mem_parts_array.1 hpart
    trivial
  · intro key part hpart
    obtain ⟨index, -, hitem⟩ := Json.mem_parts_array.1 hpart
    exact hitems part (List.mem_of_getElem? hitem)

theorem Structured.object {members : List (String × Json)} (hne : members ≠ [])
    (hnames : ∀ member ∈ members, ' ' ∉ member.1.toList ∧ '\n' ∉ member.1.toList)
    (hvalues : ∀ member ∈ members, Structured member.2) : Structured (.object members) := by
  refine .collection (by simpa [Json.parts] using hne) ?_ ?_
  · intro key part hpart
    obtain ⟨name, rfl, hmember⟩ := Json.mem_parts_object.1 hpart
    exact hnames (name, part) hmember
  · intro key part hpart
    obtain ⟨name, -, hmember⟩ := Json.mem_parts_object.1 hpart
    exact hvalues (name, part) hmember

theorem label_ne_empty (key : Key) : label key ≠ "" := by
  cases key <;> simp [label]

theorem not_mem_label (h : PlainKey key) :
    ' ' ∉ (label key).toList ∧ '\n' ∉ (label key).toList := by
  cases key with
  | item index =>
    rw [label]
    decide
  | member name =>
    obtain ⟨hspace, hfeed⟩ := h
    simp [label, hspace, hfeed]

theorem shown_of_parts_ne_nil (h : value.parts ≠ []) : shown value = none := by
  cases value with
  | null | bool | number | string => simp [Json.parts] at h
  | array items => rfl
  | object members => rfl

theorem depth_le_of_mem_rows {depth : Nat} {row : Row} (h : row ∈ rows depth value) :
    depth ≤ row.depth := by
  obtain ⟨e, -, rfl⟩ := List.mem_map.1 h
  exact Nat.le_add_right ..

/-! ## Reading rows -/

/-- A collection is put together from its parts. -/
theorem assemble_parts (hne : value.parts ≠ []) :
    assemble (value.parts.map fun (key, part) => (label key, part)) = value := by
  cases value with
  | null | bool | number | string => simp [Json.parts] at hne
  | array items =>
    have hitems : (((Json.array items).parts.map fun (key, part) => (label key, part)).map
        fun part => part.2) = items := by
      rw [Json.parts, List.map_map, List.map_map]
      exact List.zipIdx_map_fst 0 items
    cases items with
    | nil => simp [Json.parts] at hne
    | cons item rest =>
      conv_rhs => rw [← hitems]
      rfl
  | object members =>
    cases members with
    | nil => simp [Json.parts] at hne
    | cons member rest =>
      have hdash : member.1 ++ ":" ≠ "-" := by
        intro h
        have hlast := congrArg (fun s => s.toList.getLast?) h
        simp at hlast
      have hmembers : (member :: rest).map (fun member =>
          (String.ofList (member.1 ++ ":").toList.dropLast, member.2)) = member :: rest := by
        simp
      rw [assemble.eq_def]
      split
      · next heq => exact absurd (congrArg Prod.fst (List.cons.inj heq).1) hdash
      · rw [Json.parts, List.map_map, List.map_map]
        exact congrArg Json.object hmembers

/-- The rows of parts tell the parts, provided each is told by its own rows. -/
theorem readParts_partRows {parts : List (Key × Json)} (depth : Nat)
    (hparts : ∀ key part, (key, part) ∈ parts →
      ((shown part).map Json.string).getD (assemble (readParts (rows (depth + 1) part))) = part) :
    readParts (parts.flatMap (partRows depth)) =
      parts.map fun (key, part) => (label key, part) := by
  induction parts with
  | nil => rw [List.flatMap_nil, readParts]; rfl
  | cons first rest ih =>
    obtain ⟨key, part⟩ := first
    -- the rows of the part are deeper, and the next row is not
    have hdeeper : ∀ row ∈ rows (depth + 1) part, decide (depth < row.depth) = true := by
      intro row hrow
      exact decide_eq_true (depth_le_of_mem_rows hrow)
    have hnext : (rest.flatMap (partRows depth)).takeWhile (depth < ·.depth) = [] ∧
        (rest.flatMap (partRows depth)).dropWhile (depth < ·.depth) =
          rest.flatMap (partRows depth) := by
      cases rest with
      | nil => simp
      | cons next rest => simp [partRows]
    have hrest := ih fun key part hmem => hparts key part (List.mem_cons_of_mem _ hmem)
    rw [List.flatMap_cons, partRows, List.cons_append, readParts,
      List.takeWhile_append_of_pos hdeeper, List.dropWhile_append_of_pos hdeeper, hnext.1, hnext.2,
      List.append_nil, hrest, hparts key part List.mem_cons_self]
    rfl

/-- A collection of structured texts is told by its rows. -/
theorem assemble_readParts_rows (h : Structured value) (hne : value.parts ≠ []) (depth : Nat) :
    assemble (readParts (rows depth value)) = value := by
  induction h generalizing depth with
  | text _ => simp [Json.parts] at hne
  | @collection value _ _ hparts ih =>
    rw [rows_eq, readParts_partRows, assemble_parts hne]
    intro key part hpart
    cases hparts key part hpart with
    | text _ => rfl
    | collection hpart_ne _ _ =>
      rw [shown_of_parts_ne_nil hpart_ne]
      exact ih key part hpart hpart_ne (depth + 1)

/-! ## Reading texts -/

/-- A row that takes up one line, which tells it. -/
structure PlainRow (row : Row) : Prop where
  label_ne : row.label ≠ ""
  label_space : ' ' ∉ row.label.toList
  label_feed : '\n' ∉ row.label.toList
  text_feed : ∀ text ∈ row.text, '\n' ∉ text.toList

theorem plainRow_of_mem_rows (h : Structured value) {depth : Nat} {row : Row}
    (hrow : row ∈ rows depth value) : PlainRow row := by
  induction h generalizing depth with
  | text _ => simp [rows, Json.entries] at hrow
  | @collection value _ hkeys hparts ih =>
    rw [rows_eq, List.mem_flatMap] at hrow
    obtain ⟨⟨key, part⟩, hpart, hrow⟩ := hrow
    rcases List.mem_cons.1 hrow with rfl | hrow
    · obtain ⟨hspace, hfeed⟩ := not_mem_label (hkeys key part hpart)
      refine ⟨label_ne_empty key, hspace, hfeed, fun text htext => ?_⟩
      cases hparts key part hpart with
      | text hs =>
        obtain rfl := Option.some.inj htext
        exact hs
      | collection hne _ _ =>
        rw [shown_of_parts_ne_nil hne] at htext
        cases htext
    · exact ih key part hpart hrow

theorem PlainRow.not_mem_line {row : Row} (h : PlainRow row) : '\n' ∉ row.line.toList := by
  obtain ⟨depth, label, text⟩ := row
  have hfeed : '\n' ∉ label.toList := h.label_feed
  cases text with
  | none => simp [Row.line, toList_line, Row.shownText, hfeed]
  | some text =>
    have htext : '\n' ∉ text.toList := h.text_feed text rfl
    simp [Row.line, toList_line, Row.shownText, hfeed, htext]

/-- A line ends as its text does. -/
theorem getLast?_line {row : Row} {s : String} (htext : row.text = some s) (hne : s ≠ "") :
    row.line.toList.getLast? = s.toList.getLast? := by
  have hchars : s.toList ≠ [] := by simpa using hne
  rw [Row.line, toList_line, Row.shownText, htext, String.toList_append, ← List.append_assoc,
    List.getLast?_append_of_ne_nil _ hchars]

/-- The row of the text that is shown last comes last. -/
theorem exists_getLast?_rows {s : String} (h : LastText s value) (hne : value.parts ≠ [])
    (depth : Nat) : ∃ row, (rows depth value).getLast? = some row ∧ row.text = some s := by
  induction h generalizing depth with
  | text => simp [Json.parts] at hne
  | @part value key part hlast hpart ih =>
    obtain ⟨first, hfirst⟩ := List.getLast?_eq_some_iff.1 hlast
    have hrows : (rows depth value).getLast? =
        (⟨depth, label key, shown part⟩ :: rows (depth + 1) part).getLast? := by
      rw [rows_eq, hfirst, List.flatMap_append, List.flatMap_singleton, partRows,
        List.getLast?_append_of_ne_nil _ (List.cons_ne_nil _ _)]
    rw [hrows]
    cases hpart with
    | text => exact ⟨_, rfl, rfl⟩
    | part hlast' _ =>
      have hpart_ne : part.parts ≠ [] := by
        intro hnil
        simp [hnil] at hlast'
      obtain ⟨row, hrow, htext⟩ := ih hpart_ne (depth + 1)
      exact ⟨row, by rw [List.getLast?_cons, hrow]; rfl, htext⟩

/-- The standard form has one line for each row. -/
theorem fields_standard (h : Legible value) :
    Text.fields '\n' (standard value) = (rows 0 value).map Row.line := by
  obtain ⟨s, last, hs, hlast, hblank⟩ := h.ends
  have hs_ne : s ≠ "" := by
    rintro rfl
    simp at hlast
  obtain ⟨row, hrow, htext⟩ := exists_getLast?_rows hs h.nonempty 0
  have hrow_last : row.line.toList.getLast? = some last := (getLast?_line htext hs_ne).trans hlast
  have hlines_last : ((rows 0 value).map Row.line).getLast? = some row.line := by
    rw [List.getLast?_map, hrow, Option.map_some]
  have hlines : (rows 0 value).map Row.line ≠ [] := by
    intro hnil
    simp [hnil] at hlines_last
  have hrow_ne : row.line ≠ "" := by
    intro hempty
    simp [hempty] at hrow_last
  have hjoined_last := (Text.getLast?_joinFields '\n' hlines_last hrow_ne).trans hrow_last
  have hfeed : ∀ c ∈ (String.singleton '\n').toList, Text.isBlank c = true := by
    rw [String.toList_singleton]
    exact List.forall_mem_singleton.2 rfl
  -- only the line feed behind the last line is taken away
  have hstandard : standard value = Text.joinFields '\n' ((rows 0 value).map Row.line) := by
    rw [standard, lines_eq_map_rows (shown_of_parts_ne_nil h.nonempty)]
    have hjoin := Text.join_map_append_singleton '\n' hlines
    exact (congrArg Text.trimEnd hjoin).trans (Text.trimEnd_append hjoined_last hblank hfeed)
  rw [hstandard]
  refine Text.fields_joinFields hlines fun line hline => ?_
  obtain ⟨row, hrow, rfl⟩ := List.mem_map.1 hline
  exact (plainRow_of_mem_rows h.structured hrow).not_mem_line

/-- What is shown in the standard form can be read back. -/
theorem read_standard (h : Legible value) : read (standard value) = value := by
  have hrows : ((rows 0 value).map Row.line).map Row.ofLine = rows 0 value := by
    have hread : ∀ row ∈ rows 0 value, Row.ofLine row.line = row := by
      intro row hrow
      have hplain : PlainRow row := plainRow_of_mem_rows h.structured hrow
      exact Row.ofLine_line hplain.label_ne hplain.label_space
    rw [List.map_map]
    exact (List.map_congr_left hread).trans (List.map_id _)
  rw [read, fields_standard h, hrows, assemble_readParts_rows h.structured h.nonempty]

end

/-- The standard form tells structured texts apart. It has one line for each member and each item,
of whatever depth. They come in the order of reading, in which a collection comes before its parts,
items in order and members in the order of the bytes of their names. Each is indented by two spaces
for each collection around it but the outermost. Names may hold colons, as long as they hold neither
spaces nor line feeds. -/
theorem standard_unambiguous {v : Json} (hv : Legible v) (hordered : v.Ordered) :
    (∀ w p q, Legible w → render w .standard p = render v .standard q → w = v) ∧
    -- the lines
    (∀ pretty, Text.fields '\n' (render v .standard pretty) =
      v.entries.map fun e => Row.line ⟨e.above.length, label e.key, shown e.value⟩) ∧
    -- the entries are the places in the value, each once and in order
    (∀ e : Entry, e ∈ v.entries ↔ v.at? e.path = some e.value) ∧
    v.entries.Pairwise (fun e f => List.Lex Key.Before e.path f.path) := by
  refine ⟨?_, ?_, Json.mem_entries_iff hordered, Json.pairwise_entries hordered⟩
  · intro w p q hw hsame
    have hsame : standard w = standard v := hsame
    rw [← read_standard hw, hsame, read_standard hv]
  · intro pretty
    have hlines : Text.fields '\n' (standard v) = (rows 0 v).map Row.line := fields_standard hv
    rw [render, hlines, rows, List.map_map]
    refine List.map_congr_left fun e _ => ?_
    simp [row]

/-- Texts and names that look like parts of lines, and texts that are blank or end so. -/
def lookalikes : Json :=
  .object [("", .string ""), ("-", .array [.string "a: b ", .array [.string "  -"]])]

theorem standard_unambiguous_lookalikes :
    Legible lookalikes ∧ lookalikes.Ordered ∧
      Text.fields '\n' (render lookalikes .standard false) =
        [": ", "-:", "  - a: b ", "  -", "    -   -"] ∧
      (∀ w, Legible w → render w .standard true = render lookalikes .standard false →
        w = lookalikes) := by
  have hinner : Structured (.array [.string "  -"]) :=
    .array (by simp) (List.forall_mem_singleton.2 (.text (by decide)))
  have houter : Structured (.array [.string "a: b ", .array [.string "  -"]]) :=
    .array (by simp)
      (List.forall_mem_cons.2 ⟨.text (by decide), List.forall_mem_singleton.2 hinner⟩)
  have hlegible : Legible lookalikes := by
    have hparts : lookalikes.parts ≠ [] := by simp [lookalikes, Json.parts]
    refine ⟨.object (by simp) (by decide) ?_, hparts, "  -", '-', ?_, rfl, rfl⟩
    · exact List.forall_mem_cons.2 ⟨.text (by decide), List.forall_mem_singleton.2 houter⟩
    · exact .part rfl (.part rfl (.part rfl .text))
  have hread : Json.parse? "\x7b\"-\": [\"a: b \", [\"  -\"]], \"\": \"\"\x7d" =
      some lookalikes := by
    decide +kernel
  have hordered : lookalikes.Ordered := Json.ordered_of_parse? hread
  obtain ⟨hother, hlines, -, -⟩ := standard_unambiguous hlegible hordered
  exact ⟨hlegible, hordered, hlines false, fun w hw => hother w true false hw⟩

end ResourceInspector.Report
