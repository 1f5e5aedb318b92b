import Mathlib.Data.String.Basic
import MeterBus.Log.Format
import MeterBus.Proofs.Text.JsonString

/-!
# Records on one line

A JSON object is always on one line, and so is a compact record unless there is a line end in what
it shows. Records on one line each make a log that has a line for each of them.
-/

namespace MeterBus.Log

variable {record : Record} {format : Format}

/-- Where no line end is left, a text is not split. -/
theorem splitOnAux_of_notMem (passed rest : List Char) (oneLine : '\n' ∉ rest) :
    (String.ofList (passed ++ rest)).splitOnAux "\n" 0 ⟨String.utf8Len passed⟩ 0 [] =
      [String.ofList (passed ++ rest)] := by
  induction rest generalizing passed with
  | nil =>
    have whole := String.extract_of_valid [] passed []
    unfold String.splitOnAux
    rw [if_pos ((String.atEnd_of_valid passed []).2 rfl)]
    simpa using whole
  | cons c rest inductionHypothesis =>
    obtain ⟨other, oneLineBehind⟩ := not_or.1 (mt List.mem_cons.2 oneLine)
    have here := String.get_of_valid passed (c :: rest)
    have next := String.next_of_valid passed c rest
    have lineEnd : String.Pos.Raw.get "\n" 0 = '\n' := by decide
    have behind := inductionHypothesis (passed ++ [c]) oneLineBehind
    unfold String.splitOnAux
    rw [if_neg (mt (String.atEnd_of_valid passed (c :: rest)).1 (List.cons_ne_nil c rest)), here,
      lineEnd, if_neg (by simpa using Ne.symm other)]
    -- nothing of a line end has been seen, so that the search goes on behind the character
    change String.splitOnAux _ "\n" 0 (String.Pos.Raw.next _ ⟨String.utf8Len passed⟩) 0 [] = _
    rw [next]
    simpa using behind

/-- A text without line ends is one line. -/
theorem splitOn_of_notMem {text : String} (oneLine : '\n' ∉ text.toList) :
    text.splitOn "\n" = [text] := by
  have whole := splitOnAux_of_notMem [] text.toList oneLine
  rwa [List.nil_append, String.ofList_toList] at whole

/-- Whether a compact line shows a field without a line end. -/
def OneLine (field : String × Value) : Prop :=
  '\n' ∉ field.1.toList ∧ ∀ shown, field.2.compact? = some shown → '\n' ∉ shown.toList

/-- Texts without line ends make up a text without them. -/
theorem lineEnd_notMem_join {texts : List String} (oneLine : ∀ text ∈ texts, '\n' ∉ text.toList) :
    '\n' ∉ (String.join texts).toList := by
  rw [String.toList_join, List.mem_flatMap]
  rintro ⟨text, among, lineEnd⟩
  exact oneLine text among lineEnd

/-- The name of a severity is on one line. -/
theorem lineEnd_notMem_alignRight (level : Level) : '\n' ∉ (alignRight level.name).toList := by
  cases level <;> decide

/-- A compact record is on one line if its message and its fields are. -/
theorem lineEnd_notMem_compact (message : '\n' ∉ record.message.toList)
    (fields : ∀ field ∈ record.fields, OneLine field) : '\n' ∉ record.compact.toList := by
  have level := lineEnd_notMem_alignRight record.level
  simp only [Record.compact, String.toList_append, List.mem_append, not_or]
  refine ⟨⟨⟨level, by decide⟩, message⟩, lineEnd_notMem_join fun text among => ?_⟩
  obtain ⟨field, ofRecord, textEq⟩ := List.mem_filterMap.1 among
  obtain ⟨value, valueEq, rfl⟩ := Option.map_eq_some_iff.1 textEq
  obtain ⟨name, shown⟩ := fields field ofRecord
  simpa [String.toList_append, name] using shown value valueEq

/-- The decimal digits of a count are on one line. -/
theorem lineEnd_notMem_toString (count : Nat) : '\n' ∉ (toString count).toList :=
  (JsonString.isPlain_toString count).lineEnd_notMem

/-- A value in a JSON object is on one line. -/
theorem lineEnd_notMem_json_value (value : Value) : '\n' ∉ value.json.toList := by
  induction value with
  | text content => exact JsonString.lineEnd_notMem_text content
  | quoted content => exact JsonString.lineEnd_notMem_text content
  | number count => exact lineEnd_notMem_toString count
  | detail value inductionHypothesis => exact inductionHypothesis

/-- A member of a JSON object is on one line if its value is. -/
theorem lineEnd_notMem_member (name : String) {value : String} (oneLine : '\n' ∉ value.toList) :
    '\n' ∉ (JsonString.text name ++ ":" ++ value).toList := by
  simp [String.toList_append, JsonString.lineEnd_notMem_text, oneLine]

/-- Members on one line make a list of members on one line. -/
theorem lineEnd_notMem_intercalate {members : List String}
    (oneLine : ∀ member ∈ members, '\n' ∉ member.toList) :
    '\n' ∉ (String.intercalate "," members).toList := by
  induction members with
  | nil => decide
  | cons member others inductionHypothesis =>
    obtain ⟨here, behind⟩ := List.forall_mem_cons.1 oneLine
    cases others with
    | nil => simpa using here
    | cons second others =>
      have rest := inductionHypothesis behind
      rw [String.intercalate_cons_cons, String.toList_append, String.toList_append]
      simpa [here] using rest

/-- A JSON object is on one line. -/
theorem lineEnd_notMem_json (record : Record) : '\n' ∉ record.json.toList := by
  have level := lineEnd_notMem_member "level" (JsonString.lineEnd_notMem_text record.level.name)
  have name := JsonString.lineEnd_notMem_text "fields"
  simp only [String.toList_append, List.mem_append, not_or] at level
  simp only [Record.json, String.toList_append, List.mem_append, not_or]
  refine ⟨⟨⟨⟨by decide, level⟩, by decide⟩, ⟨name, by decide⟩,
    ⟨by decide, lineEnd_notMem_intercalate (List.forall_mem_cons.2 ⟨?_, fun member among => ?_⟩)⟩,
    by decide⟩, by decide⟩
  · exact lineEnd_notMem_member "message" (JsonString.lineEnd_notMem_text record.message)
  · obtain ⟨field, _, rfl⟩ := List.mem_map.1 among
    exact lineEnd_notMem_member field.1 (lineEnd_notMem_json_value field.2)

/-- In either format a record is on one line if its message and its fields are. -/
theorem lineEnd_notMem_line (format : Format) (message : '\n' ∉ record.message.toList)
    (fields : ∀ field ∈ record.fields, OneLine field) : '\n' ∉ (record.line format).toList := by
  cases format with
  | compact => exact lineEnd_notMem_compact message fields
  | json => exact lineEnd_notMem_json record

/-- The log of records on one line each has a line for each of them that it shows. -/
theorem lines_eq_map (limit : Level) {records : List Record}
    (oneLine : ∀ record ∈ records, '\n' ∉ (record.line format).toList) :
    lines limit format records = (atLeast limit records).map (·.line format) := by
  have split : ∀ record ∈ atLeast limit records,
      (record.line format).splitOn "\n" = [record.line format] := fun record among =>
    splitOn_of_notMem (oneLine record (List.mem_of_mem_filter among))
  rw [lines, List.flatMap_def, List.map_congr_left split, ← List.flatMap_def,
    List.map_eq_flatMap]

end MeterBus.Log
