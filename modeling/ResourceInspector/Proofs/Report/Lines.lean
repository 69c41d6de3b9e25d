import ResourceInspector.Proofs.Json.Places
import ResourceInspector.Proofs.Text.Fields
import ResourceInspector.Report.Basic
/-!
# Lines of the standard form

The standard form of a collection has one line for each entry (`lines_eq_map_rows`). What a line
tells is a `Row`: how deep the entry lies, what it is labelled with, and the text of a scalar. As
long as labels hold no spaces, a line tells its row (`ofLine_line`): the spaces in front are the
indentation, and the first one behind them ends the label.
-/

namespace ResourceInspector.Report

open Json (Entry Key)

/-! ## Rows -/

/-- The label of a part: a dash for an item, and for a member its name with a colon. -/
def label : Key → String
  | .item _ => "-"
  | .member name => name ++ ":"

/-- What is shown behind a label. Collections have nothing there. -/
def shown : Json → Option String
  | .array _ | .object _ => none
  | value => some (scalar value)

/-- What a line tells. -/
structure Row where
  depth : Nat
  label : String
  text : Option String
deriving Repr, DecidableEq

namespace Row

/-- The text on the line of a row, without the indentation. -/
def shownText (row : Row) : String :=
  match row.text with
  | none => row.label
  | some text => row.label ++ " " ++ text

def line (row : Row) : String :=
  Report.line row.depth row.shownText

def ofLine (line : String) : Row :=
  let chars := line.toList
  let rest := chars.dropWhile (· = ' ')
  { depth := (chars.takeWhile (· = ' ')).length / 2
    label := String.ofList (rest.takeWhile (· ≠ ' '))
    text := (rest.dropWhile (· ≠ ' ')).tail?.map String.ofList }

end Row

/-- The row of an entry of a value that stands at some depth itself. -/
def row (depth : Nat) (e : Entry) : Row :=
  ⟨depth + e.above.length, label e.key, shown e.value⟩

/-- The rows of a value that stands at some depth. -/
def rows (depth : Nat) (value : Json) : List Row :=
  value.entries.map (row depth)

/-- The rows of one part. -/
def partRows (depth : Nat) (part : Key × Json) : List Row :=
  ⟨depth, label part.1, shown part.2⟩ :: rows (depth + 1) part.2

theorem rows_eq (depth : Nat) (value : Json) :
    rows depth value = value.parts.flatMap (partRows depth) := by
  have hunder : ∀ key, row depth ∘ Entry.under key = row (depth + 1) := by
    intro key
    funext e
    simp only [Function.comp_apply, row, Entry.under, List.length_cons, Row.mk.injEq, and_true]
    omega
  rw [rows, Json.entries_eq, List.map_flatMap]
  refine List.flatMap_congr fun part _ => ?_
  rw [Json.partEntries, List.map_cons, List.map_map, hunder]
  rfl

/-! ## Lines -/

theorem itemLines_eq (depth : Nat) (items : List Json) :
    itemLines depth items = items.flatMap (labelledLines depth "-") := by
  induction items with
  | nil => rw [itemLines]; rfl
  | cons item rest ih => rw [itemLines, ih, List.flatMap_cons]

theorem memberLines_eq (depth : Nat) (members : List (String × Json)) :
    memberLines depth members =
      members.flatMap fun (name, value) => labelledLines depth (name ++ ":") value := by
  induction members with
  | nil => rw [memberLines]; rfl
  | cons member rest ih => rw [memberLines, ih, List.flatMap_cons]

/-- The lines of a collection are those of its parts. -/
theorem lines_eq {value : Json} (hvalue : shown value = none) (depth : Nat) :
    lines depth value =
      value.parts.flatMap fun (key, part) => labelledLines depth (label key) part := by
  cases value with
  | null | bool | number | string => cases hvalue
  | array items =>
    have hitems : items = items.zipIdx.map Prod.fst := (List.zipIdx_map_fst 0 items).symm
    rw [lines, itemLines_eq, Json.parts, List.flatMap_map]
    conv_lhs => rw [hitems, List.flatMap_map]
    rfl
  | object members =>
    rw [lines, memberLines_eq, Json.parts, List.flatMap_map]
    rfl

/-- Of a part there is the line of its own row, and below it whatever lines it has itself. -/
theorem labelledLines_eq {depth : Nat} {value : Json} (label : String)
    (hbelow : shown value = none →
      lines (depth + 1) value = (rows (depth + 1) value).map Row.line) :
    labelledLines depth label value =
      Row.line ⟨depth, label, shown value⟩ :: (rows (depth + 1) value).map Row.line := by
  cases value with
  | null | bool | number | string =>
    simp [labelledLines, rows, Json.entries, shown, Row.line, Row.shownText]
  | array items =>
    rw [labelledLines, ← hbelow rfl, lines]
    rfl
  | object members =>
    rw [labelledLines, ← hbelow rfl, lines]
    rfl

/-- A collection has one line for each of its entries. -/
theorem lines_eq_map_rows {value : Json} (hvalue : shown value = none) (depth : Nat) :
    lines depth value = (rows depth value).map Row.line := by
  induction value using Json.induction_parts generalizing depth with
  | step value ih =>
    rw [lines_eq hvalue, rows_eq, List.map_flatMap]
    refine List.flatMap_congr fun (key, part) hpart => ?_
    exact labelledLines_eq (label key) fun hshown => ih key part hpart hshown (depth + 1)

/-! ## Reading lines -/

theorem toList_line (depth : Nat) (text : String) :
    (line depth text).toList = List.replicate (2 * depth) ' ' ++ text.toList := by
  simp [line]

/-- A line tells its row, if the label can be told from what is around it. -/
theorem Row.ofLine_line {row : Row} (hne : row.label ≠ "") (hlabel : ' ' ∉ row.label.toList) :
    Row.ofLine row.line = row := by
  obtain ⟨depth, label, text⟩ := row
  dsimp only at hne hlabel
  obtain ⟨first, more, hchars⟩ : ∃ first more, label.toList = first :: more :=
    List.exists_cons_of_ne_nil (by simpa using hne)
  have hfirst : first ≠ ' ' := by
    rintro rfl
    simp [hchars] at hlabel
  have hsolid : ∀ c ∈ label.toList, decide (c ≠ ' ') = true := by
    intro c hc
    refine decide_eq_true ?_
    rintro rfl
    exact hlabel hc
  have hspaces : ∀ c ∈ List.replicate (2 * depth) ' ', decide (c = ' ') = true := by
    simp
  obtain ⟨behind, hbehind, hread⟩ : ∃ behind : List Char,
      (Row.mk depth label text).shownText.toList = label.toList ++ behind ∧
        behind.takeWhile (· ≠ ' ') = [] ∧
        (behind.dropWhile (· ≠ ' ')).tail?.map String.ofList = text := by
    cases text with
    | none => exact ⟨[], by simp [shownText], by simp, by simp⟩
    | some text => exact ⟨' ' :: text.toList, by simp [shownText], by simp, by simp⟩
  have hstart : (label.toList ++ behind).takeWhile (· = ' ') = [] ∧
      (label.toList ++ behind).dropWhile (· = ' ') = label.toList ++ behind := by
    rw [hchars]
    simp [hfirst]
  simp only [ofLine, line, toList_line, hbehind, List.takeWhile_append_of_pos hspaces,
    List.dropWhile_append_of_pos hspaces, hstart, List.takeWhile_append_of_pos hsolid,
    List.dropWhile_append_of_pos hsolid, hread]
  simp

end ResourceInspector.Report
