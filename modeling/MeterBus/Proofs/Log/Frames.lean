import MeterBus.Program.Monitor
import MeterBus.Proofs.Frame.Text
import MeterBus.Proofs.Log.Lines
import MeterBus.Proofs.Log.Severity
import MeterBus.Proxy.Activity

/-!
# Log lines tell frames apart

A log knows a frame by its text. The monitor has the text as the message of a record; codecs and the
multiplexer have it as the first field of theirs. `Log.lines_tell_frames_apart` says that this is
enough: whichever records two lines are made of, they are the same only if the frames are.

Lines are compared from their beginning. What stands in front of a message depends on the severity
only, no message begins another one, and none begins like a text. So lines that are the same have
the texts of their frames in the same place.
-/

namespace MeterBus

/-- The frame that a report of a codec is about. -/
def Codec.Event.frame? : Codec.Event → Option Frame
  | .decoded frame _ | .encoded frame => some frame
  | .recovered _ | .lostSync .. | .dropped .. => none

/-- The frame that an activity is about. -/
def Activity.frame? : Activity → Option Frame
  | .codec _ event => event.frame?
  | .received _ frame | .unexpected _ frame | .ignored frame | .stale frame
  | .forwarding frame _ | .relaying frame _ | .sent _ frame _ => some frame
  | .selected | .acknowledging _ | .acknowledged _ | .timedOut .. | .relayed _ | .relieved ..
  | .ended _ | .cancelled => none

namespace Log

/-- Whether a program shows a frame by a record. -/
inductive Shows (frame : Frame) : Record → Prop
  /-- The monitor saw the frame on its line. -/
  | seen {hex : Bool} {record : Record} (given : Monitor.frameRecord hex frame = .ok record) :
      Shows frame record
  /-- A codec reports the frame. -/
  | coded {event : Codec.Event} (about : event.frame? = some frame) : Shows frame event.record
  /-- The multiplexer did something with the frame. -/
  | handled {activity : Activity} {record : Record} (about : activity.frame? = some frame)
      (given : activity.record? = some record) : Shows frame record

variable {frame first second : Frame} {record other : Record} {format : Format}

/-! ## Where a record has its frame -/

/-- The messages of records that have a frame as their first field. -/
def messages : List String :=
  ["decoded frame", "encoding frame", "received frame", "received unexpected frame",
    "ignoring frame for a slave we do not proxy", "dropping late slave reply",
    "forwarding frame to slave", "relaying slave response"]

/-- Whether a record has the text of a frame as its message or as its first field. -/
inductive Carries (frame : Frame) : Record → Prop
  | message {others : List (String × Value)} (oneLine : ∀ field ∈ others, OneLine field) :
      Carries frame ⟨.info, frame.text, others⟩
  | field {level : Level} {message : String} {others : List (String × Value)}
      (known : message ∈ messages) (oneLine : ∀ field ∈ others, OneLine field) :
      Carries frame ⟨level, message, ("frame", .text frame.text) :: others⟩

/-- The messages are plain. -/
theorem isPlain_of_mem_messages {message : String} (known : message ∈ messages) :
    JsonString.IsPlain message := by
  have plain : ∀ message ∈ messages, JsonString.IsPlain message := by decide +kernel
  exact plain message known

/-- A plain text is shown on one line. -/
theorem oneLine_text {name content : String} (named : JsonString.IsPlain name)
    (plain : JsonString.IsPlain content) : OneLine (name, .text content) := by
  refine ⟨named.lineEnd_notMem, fun shown valueEq => ?_⟩
  obtain rfl := Option.some.inj valueEq
  exact plain.lineEnd_notMem

/-- A count is shown on one line. -/
theorem oneLine_number {name : String} (named : JsonString.IsPlain name) (count : Nat) :
    OneLine (name, .number count) := by
  refine ⟨named.lineEnd_notMem, fun shown valueEq => ?_⟩
  obtain rfl := Option.some.inj valueEq
  exact lineEnd_notMem_toString count

/-- The names of ports are plain. -/
theorem isPlain_name (port : Port) : JsonString.IsPlain port.name := by
  cases port <;> decide

/-- The reports of a codec have their frame as the first field. -/
theorem carries_of_event {event : Codec.Event} (about : event.frame? = some frame) :
    Carries frame event.record := by
  cases event with
  | decoded given consumed =>
    obtain rfl := Option.some.inj about
    exact .field (by simp [messages]) (by simpa using oneLine_number (by decide) consumed)
  | encoded given =>
    obtain rfl := Option.some.inj about
    exact .field (by simp [messages]) (by simp)
  | recovered | lostSync | dropped => cases about

/-- The records of the multiplexer have their frame as the first field. -/
theorem carries_of_activity {activity : Activity} (about : activity.frame? = some frame)
    (given : activity.record? = some record) : Carries frame record := by
  have ofPort (port : Port) {name : String} (named : JsonString.IsPlain name) :
      ∀ field ∈ [(name, Value.text port.name)], OneLine field := by
    simpa using oneLine_text named (isPlain_name port)
  cases activity with
  | codec port event =>
    obtain rfl := Option.some.inj given
    exact carries_of_event about
  | received port shown | unexpected port shown | forwarding shown port | relaying shown port =>
    obtain rfl := Option.some.inj about
    obtain rfl := Option.some.inj given
    exact .field (by simp [messages]) (ofPort port (by decide))
  | ignored shown | stale shown =>
    obtain rfl := Option.some.inj about
    obtain rfl := Option.some.inj given
    exact .field (by simp [messages]) (by simp)
  | sent => cases given
  | selected | acknowledging | acknowledged | timedOut | relayed | relieved | ended | cancelled =>
    cases about

/-- The monitor has a frame as the message of its record. -/
theorem carries_of_frameRecord {hex : Bool} (given : Monitor.frameRecord hex frame = .ok record) :
    Carries frame record := by
  have kind : OneLine ("kind", .text frame.kind.name) := by
    refine oneLine_text (by decide) ?_
    cases frame.kind <;> decide
  unfold Monitor.frameRecord at given
  cases hex with
  | false =>
    obtain rfl := Except.ok.inj given
    exact .message (by simpa using kind)
  | true =>
    cases encoded : frame.encode with
    | error cause => simp [encoded, bind, Except.bind] at given
    | ok raw =>
      simp only [encoded, bind, Except.bind, pure, Except.pure, if_true, Except.ok.injEq] at given
      obtain rfl := given
      have digits : OneLine ("raw", .text (Hex.encode raw)) :=
        oneLine_text (by decide) (JsonString.isPlain_encode raw)
      exact .message (by simpa using ⟨kind, digits⟩)

/-- A record by which a frame is shown has its text. -/
theorem Shows.carries (shows : Shows frame record) : Carries frame record := by
  cases shows with
  | seen given => exact carries_of_frameRecord given
  | coded about => exact carries_of_event about
  | handled about given => exact carries_of_activity about given

/-- A record with a frame is on one line. -/
theorem Carries.lineEnd_notMem_line (carries : Carries frame record) (format : Format) :
    '\n' ∉ (record.line format).toList := by
  cases carries with
  | message oneLine =>
    exact Log.lineEnd_notMem_line format frame.isPlain_text.lineEnd_notMem oneLine
  | field known oneLine =>
    have text : OneLine ("frame", .text frame.text) := oneLine_text (by decide) frame.isPlain_text
    exact Log.lineEnd_notMem_line format (isPlain_of_mem_messages known).lineEnd_notMem
      (List.forall_mem_cons.2 ⟨text, oneLine⟩)

/-! ## Lines from their beginning -/

/-- What a line shows in front of its message. -/
def opening : Format → Level → String
  | .compact, level => alignRight level.name ++ " "
  | .json, level =>
    "\x7b" ++ (JsonString.text "level" ++ ":" ++ JsonString.text level.name) ++ ","
      ++ JsonString.text "fields" ++ ":" ++ "\x7b" ++ JsonString.text "message" ++ ":" ++ "\""

/-- What a line shows between a plain text and that of the next field. -/
def joint (name : String) : Format → String
  | .compact => " " ++ name ++ "="
  | .json => "\"" ++ "," ++ JsonString.text name ++ ":" ++ "\""

/-- What a line shows behind a plain text, with these fields to come. -/
def closing (fields : List (String × Value)) : Format → String
  | .compact =>
    String.join (fields.filterMap fun (name, value) =>
      value.compact?.map fun shown => " " ++ name ++ "=" ++ shown)
  | .json =>
    String.intercalate ","
      ("\"" :: fields.map fun (name, value) => JsonString.text name ++ ":" ++ value.json)
      ++ "\x7d" ++ "\x7d"

/-- A line shows a plain message as it is. -/
theorem line_eq {message : String} (plain : JsonString.IsPlain message) (format : Format)
    (level : Level) (fields : List (String × Value)) :
    Record.line ⟨level, message, fields⟩ format =
      opening format level ++ message ++ closing fields format := by
  cases format with
  | compact => rfl
  | json =>
    simp only [Record.line, Record.json, opening, closing, JsonString.text_of_isPlain plain,
      String.intercalate_cons_append, String.append_assoc]

/-- A line shows the plain text of a field as it is. -/
theorem closing_cons {content : String} (plain : JsonString.IsPlain content) (format : Format)
    (name : String) (others : List (String × Value)) :
    closing ((name, .text content) :: others) format =
      joint name format ++ content ++ closing others format := by
  cases format with
  | compact => simp [closing, joint, Value.compact?, String.append_assoc]
  | json =>
    simp only [closing, joint, List.map_cons, Value.json, JsonString.text_of_isPlain plain,
      String.intercalate_cons_cons, String.intercalate_cons_append, String.append_assoc]

/-- Whether no word of a list begins another one. -/
def IsPrefixCode (words : List (List Char)) : Prop :=
  ∀ first ∈ words, ∀ second ∈ words, first <+: second → first = second

instance (words : List (List Char)) : Decidable (IsPrefixCode words) :=
  inferInstanceAs (Decidable
    (∀ first ∈ words, ∀ second ∈ words, first <+: second → first = second))

/-- The word with which something begins is known, and so is what follows it. -/
theorem IsPrefixCode.append_inj {words : List (List Char)} (code : IsPrefixCode words)
    {word otherWord s t : List Char} (known : word ∈ words) (otherKnown : otherWord ∈ words)
    (same : word ++ s = otherWord ++ t) : word = otherWord ∧ s = t := by
  have wordEq : word = otherWord := by
    obtain begins | begun := List.prefix_or_prefix_of_prefix ⟨s, rfl⟩ ⟨t, same.symm⟩
    · exact code word known otherWord otherKnown begins
    · exact (code otherWord otherKnown word known begun).symm
  rw [wordEq, List.append_cancel_left_eq] at same
  exact ⟨wordEq, same⟩

/-- The openings of lines are a prefix code. -/
theorem isPrefixCode_openings (format : Format) :
    IsPrefixCode (Level.all.map fun level => (opening format level).toList) := by
  cases format <;> decide +kernel

/-- The messages are a prefix code. -/
theorem isPrefixCode_messages : IsPrefixCode (messages.map String.toList) := by
  decide +kernel

/-- What is behind the openings of lines that are the same is the same. -/
theorem opening_append_inj {level otherLevel : Level} {s t : List Char}
    (same : (opening format level).toList ++ s = (opening format otherLevel).toList ++ t) : s = t :=
  ((isPrefixCode_openings format).append_inj (List.mem_map_of_mem level.mem_all)
    (List.mem_map_of_mem otherLevel.mem_all) same).2

/-- What is behind messages of lines that are the same is the same. -/
theorem message_append_inj {message otherMessage : String} (known : message ∈ messages)
    (otherKnown : otherMessage ∈ messages) {s t : List Char}
    (same : message.toList ++ s = otherMessage.toList ++ t) : s = t :=
  (isPrefixCode_messages.append_inj (List.mem_map_of_mem known) (List.mem_map_of_mem otherKnown)
    same).2

/-- The text of a frame does not begin like a message, as its letters are capitals. -/
theorem text_append_ne_message_append {message : String} (known : message ∈ messages)
    (s t : List Char) : frame.text.toList ++ s ≠ message.toList ++ t := by
  have apart : ∀ kind : Frame.Kind, ∀ message ∈ messages,
      2 ≤ message.toList.length ∧ kind.letters ≠ message.toList.take 2 := by
    intro kind
    cases kind <;> decide +kernel
  obtain ⟨long, different⟩ := apart frame.kind message known
  intro same
  have letters := congrArg (List.take 2) same
  rw [Frame.take_text_append, List.take_append_of_le_length long] at letters
  exact different letters

/-- The line of a record with a frame, from its beginning to the text of the frame. -/
theorem Carries.exists_line (carries : Carries frame record) (format : Format) :
    ∃ level shown back, (record.line format).toList = (opening format level).toList ++ shown ∧
      (shown = frame.text.toList ++ back ∨
        ∃ message ∈ messages, shown =
          message.toList ++ ((joint "frame" format).toList ++ (frame.text.toList ++ back))) := by
  cases carries with
  | @message others _ =>
    refine ⟨.info, _, (closing others format).toList, ?_, .inl rfl⟩
    rw [line_eq frame.isPlain_text]
    simp only [String.toList_append, List.append_assoc]
  | @field level message others known _ =>
    refine ⟨level, _, (closing others format).toList, ?_, .inr ⟨message, known, rfl⟩⟩
    rw [line_eq (isPlain_of_mem_messages known), closing_cons frame.isPlain_text]
    simp only [String.toList_append, List.append_assoc]

/-- Records with frames make the same line only of the same frame. -/
theorem Carries.eq_of_line_eq (carries : Carries first record) (otherCarries : Carries second other)
    (same : record.line format = other.line format) : first = second := by
  obtain ⟨level, shown, back, lineEq, shownEq⟩ := carries.exists_line format
  obtain ⟨otherLevel, otherShown, otherBack, otherLineEq, otherShownEq⟩ :=
    otherCarries.exists_line format
  obtain rfl : shown = otherShown := opening_append_inj (by rw [← lineEq, same, otherLineEq])
  obtain rfl | ⟨message, known, rfl⟩ := shownEq
  · obtain sameText | ⟨message, known, sameText⟩ := otherShownEq
    · exact (Frame.text_append_inj sameText).1
    · exact absurd sameText (text_append_ne_message_append known _ _)
  · obtain sameText | ⟨otherMessage, otherKnown, sameText⟩ := otherShownEq
    · exact absurd sameText.symm (text_append_ne_message_append known _ _)
    · have behind := message_append_inj known otherKnown sameText
      exact (Frame.text_append_inj (List.append_cancel_left behind)).1

/-- Frames of any format, with any number of data, are the same if their texts are. Each record by
which the monitor, a codec or the multiplexer shows a frame is one line of the log, in either
format, and no line that shows a frame is one that shows another frame. -/
theorem lines_tell_frames_apart :
    Function.Injective Frame.text ∧
    (∀ (limit : Level) (format : Format) (records : List Record),
      (∀ record ∈ records, ∃ frame, Shows frame record) →
        lines limit format records = (atLeast limit records).map (·.line format)) ∧
    ∀ (format : Format) (first second : Frame) (record other : Record),
      Shows first record → Shows second other → first ≠ second →
        record.line format ≠ other.line format := by
  refine ⟨fun first second => Frame.text_inj, fun limit format records shown => ?_, ?_⟩
  · refine lines_eq_map limit fun record among => ?_
    obtain ⟨frame, shows⟩ := shown record among
    exact shows.carries.lineEnd_notMem_line format
  · intro format first second record other shows otherShows different same
    exact different (shows.carries.eq_of_line_eq otherShows.carries same)

/-- A control frame and a long frame without data, which have the same bytes on the wire. -/
theorem lines_tell_frames_apart_where_wire_bytes_agree :
    (Frame.control 0x53 0xFE 0xBD).layout = (Frame.long 0x53 0xFE 0xBD []).layout ∧
    Shows (.control 0x53 0xFE 0xBD) (Codec.Event.encoded (.control 0x53 0xFE 0xBD)).record ∧
    Shows (.long 0x53 0xFE 0xBD []) (Codec.Event.encoded (.long 0x53 0xFE 0xBD [])).record ∧
    Frame.control 0x53 0xFE 0xBD ≠ .long 0x53 0xFE 0xBD [] ∧
    lines .trace .compact [(Codec.Event.encoded (.control 0x53 0xFE 0xBD)).record,
        (Codec.Event.encoded (.long 0x53 0xFE 0xBD [])).record] =
      [(Codec.Event.encoded (.control 0x53 0xFE 0xBD)).record.line .compact,
        (Codec.Event.encoded (.long 0x53 0xFE 0xBD [])).record.line .compact] ∧
    (Codec.Event.encoded (.control 0x53 0xFE 0xBD)).record.line .json ≠
      (Codec.Event.encoded (.long 0x53 0xFE 0xBD [])).record.line .json := by
  obtain ⟨_, linesEq, apart⟩ := lines_tell_frames_apart
  have control : Shows (.control 0x53 0xFE 0xBD)
      (Codec.Event.encoded (.control 0x53 0xFE 0xBD)).record := .coded rfl
  have long : Shows (.long 0x53 0xFE 0xBD [])
      (Codec.Event.encoded (.long 0x53 0xFE 0xBD [])).record := .coded rfl
  have different : Frame.control 0x53 0xFE 0xBD ≠ .long 0x53 0xFE 0xBD [] := by decide
  refine ⟨by decide, control, long, different, linesEq .trace .compact _ ?_,
    apart .json _ _ _ _ control long different⟩
  rintro record among
  obtain rfl | rfl : record = _ ∨ record = _ := by simpa using among
  · exact ⟨_, control⟩
  · exact ⟨_, long⟩

end Log

end MeterBus
