import MeterBus.Program.Monitor
import MeterBus.Proofs.Stream.Capture
import MeterBus.Proofs.Text.Hex

/-!
# What the monitor makes of a capture

The monitor sees a capture as its line gives it, in reads of any sizes. What it logs is said here of
the bytes of the capture alone: a record for each frame of a scan, and one record for all the bytes
that belong to none.
-/

namespace MeterBus.Monitor

/-- The record of a valid frame. -/
def shown (hex : Bool) (frame : Frame) : Log.Record :=
  ⟨.info, frame.text,
    ("kind", .text frame.kind.name) ::
      if hex then [("raw", .text (Hex.encode frame.layout))] else []⟩

/-- The bytes that a record shows. -/
def raw? (record : Log.Record) : Option (List UInt8) :=
  match record.fields.lookup "raw" with
  | some (.text digits) => Hex.decode? digits
  | _ => none

/-- The records of frames, which are shown at the usual level. -/
def Findings.lines (findings : Findings) : List Log.Record :=
  findings.records.filter (·.level = .info)

/-- The reports of bytes that belong to no frame. -/
def Findings.reports (findings : Findings) : List Log.Record :=
  findings.records.filter (·.message = "bytes skipped while resynchronising")

/-- The bytes of a frame can be read off its record. -/
theorem raw?_shown (frame : Frame) : raw? (shown true frame) = some frame.layout := by
  have field : (shown true frame).fields.lookup "raw" = some (.text (Hex.encode frame.layout)) := rfl
  rw [raw?, field]
  exact Hex.decode?_encode frame.layout

/-- A valid frame has a record. -/
theorem frameRecord_of_validate (hex : Bool) {frame : Frame} (valid : frame.validate = .ok ()) :
    frameRecord hex frame = .ok (shown hex frame) := by
  have encoded : frame.encode = .ok frame.layout := Frame.encode_eq_ok_iff.2 ⟨valid, rfl⟩
  cases hex with
  | false => rfl
  | true => simp [frameRecord, shown, encoded, bind, Except.bind, pure, Except.pure]

/-- Valid frames are logged one after the other, each behind what the codec reported about it. -/
theorem logFrames_of_validate (hex : Bool) {taken : List (Frame × List Codec.Event)}
    (valid : ∀ frame ∈ taken.map (·.1), frame.validate = .ok ()) :
    logFrames hex taken =
      ⟨taken.flatMap fun given => given.2.map Codec.Event.record ++ [shown hex given.1],
        .ok taken.length⟩ := by
  induction taken with
  | nil => rfl
  | cons given others inductionHypothesis =>
    obtain ⟨frame, events⟩ := given
    have first := frameRecord_of_validate hex (valid frame (by simp))
    have later := inductionHypothesis fun frame among => valid frame (List.mem_cons_of_mem _ among)
    simp [logFrames, first, later, Except.map]

/-- The frames that were taken are what a test finds in the log that the codec's reports do not
pass. -/
theorem filter_logged (test : Log.Record → Bool)
    (unreported : ∀ event : Codec.Event, test event.record = false) (hex : Bool)
    (taken : List (Frame × List Codec.Event)) (events : List Codec.Event) :
    ((taken.flatMap fun given => given.2.map Codec.Event.record ++ [shown hex given.1]) ++
        events.map Codec.Event.record).filter test =
      ((taken.map (·.1)).map (shown hex)).filter test := by
  have silent (events : List Codec.Event) : (events.map Codec.Event.record).filter test = [] := by
    rw [List.filter_eq_nil_iff]
    intro record among
    obtain ⟨event, _, rfl⟩ := List.mem_map.1 among
    rw [unreported event]
    exact Bool.false_ne_true
  rw [List.filter_append, silent, List.append_nil]
  induction taken with
  | nil => rfl
  | cons given others inductionHypothesis =>
    rw [List.flatMap_cons, List.filter_append, inductionHypothesis, List.filter_append, silent,
      List.nil_append, ← List.filter_append]
    rfl

/-- No frame is shown as the report of the bytes that belong to none. -/
theorem text_ne_skipped (frame : Frame) : frame.text ≠ "bytes skipped while resynchronising" := by
  intro same
  -- the first letters differ
  have letter := congrArg (fun text => text.toList.head?) same
  revert letter
  unfold Frame.text
  split <;> simp [String.toList_append]

/-- The fragment that a read gives, unless it gives no bytes. -/
def fragment? : List UInt8 → Option Fragment
  | [] => none
  | byte :: others => some (.bytes byte others)

/-- The line of a capture receives what the reads give. -/
theorem lineOf_reads (reads : List (List UInt8)) :
    lineOf (reads.map .bytes) = .receiving 0 .resynchronizing (reads.filterMap fragment?) := by
  have feeding (line : Line) :
      (reads.map Chunk.bytes).foldl (fun line chunk => line.feed 0 ⟨0, chunk⟩) line =
        (reads.filterMap fragment?).foldl (fun line fragment => line.feed 0 ⟨0, fragment.chunk⟩)
          line := by
    induction reads generalizing line with
    | nil => rfl
    | cons content others inductionHypothesis =>
      rw [List.map_cons, List.foldl_cons, inductionHypothesis]
      cases content with
      | nil =>
        have unfed : line.feed 0 ⟨0, .bytes []⟩ = line := by
          simp [Line.feed, Delivery.arrivals]
        rw [unfed]
        rfl
      | cons byte rest => rfl
  rw [lineOf, feeding]
  rfl

/-- The reads give the bytes of the capture and do not fail. -/
theorem contents_reads (reads : List (List UInt8)) :
    Fragment.contents (reads.filterMap fragment?) = reads.flatten ∧
      Fragment.outages (reads.filterMap fragment?) = [] := by
  induction reads with
  | nil => exact ⟨rfl, rfl⟩
  | cons content others inductionHypothesis =>
    obtain ⟨contents, outages⟩ := inductionHypothesis
    cases content with
    | nil => exact ⟨contents, outages⟩
    | cons byte rest => exact ⟨congrArg (byte :: rest ++ ·) contents, outages⟩

/-- What is logged of a capture, and what comes of it. -/
theorem watch_reads (hex : Bool) (reads : List (List UInt8)) :
    ∃ (taken : List (Frame × List Codec.Event)) (events : List Codec.Event) (skipped : Nat),
      taken.map (·.1) = Frame.scan reads.flatten ∧
      skipped + ((Frame.scan reads.flatten).map Frame.encodedLength).sum = reads.flatten.length ∧
      watch hex (lineOf (reads.map .bytes)) =
        ⟨(taken.flatMap fun given => given.2.map Codec.Event.record ++ [shown hex given.1]) ++
            events.map Codec.Event.record ++ discardRecords skipped,
          .ok (Frame.scan reads.flatten).length⟩ := by
  obtain ⟨contents, outages⟩ := contents_reads reads
  obtain ⟨ended, frames, counted⟩ := Line.readyFrames_receiving 0 outages
  rw [contents] at frames counted
  rw [lineOf_reads]
  generalize readyEq : (Line.receiving 0 .resynchronizing (reads.filterMap fragment?)).readyFrames 0
    = ready at ended frames counted
  have valid : ∀ frame ∈ ready.frames.map (·.1), frame.validate = .ok () := by
    rw [frames]
    intro frame
    exact Frame.validate_of_mem_scan
  refine ⟨ready.frames, ready.events, ready.line.reader.codec.discarded, frames, counted, ?_⟩
  simp only [watch, readyEq, logFrames_of_validate hex valid, ended, ← frames, List.length_map]

/-- However a capture is read, the monitor succeeds. It logs one line for each frame of a scan, in
order, and gives their number; all frames have wire bytes, and with `hex` the lines show them,
stretches of the capture one behind the other. What else there is in the capture is counted, and
reported if there is any: with the bytes of the frames it makes up the whole. -/
theorem watch_accounts_for_capture (hex : Bool) (reads : List (List UInt8)) :
    (watch hex (lineOf (reads.map .bytes))).outcome = .ok (Frame.scan reads.flatten).length ∧
    (watch hex (lineOf (reads.map .bytes))).lines = (Frame.scan reads.flatten).map (shown hex) ∧
    (∀ frame ∈ Frame.scan reads.flatten, ∃ wire, frame.encode = .ok wire) ∧
    (hex = true →
      ∃ pieces, (watch hex (lineOf (reads.map .bytes))).lines.map raw? = pieces.map some ∧
        Frame.Stretches pieces reads.flatten) ∧
    ∃ skipped,
      skipped + ((Frame.scan reads.flatten).map Frame.encodedLength).sum = reads.flatten.length ∧
      (watch hex (lineOf (reads.map .bytes))).reports =
        if 0 < skipped then
          [⟨.warn, "bytes skipped while resynchronising", [("discarded", .number skipped)]⟩]
        else [] := by
  obtain ⟨taken, events, skipped, takenEq, counted, watched⟩ := watch_reads hex reads
  have linesEq : (watch hex (lineOf (reads.map .bytes))).lines
      = (Frame.scan reads.flatten).map (shown hex) := by
    have unreported (event : Codec.Event) : decide (event.record.level = .info) = false := by
      cases event <;> rfl
    have discarded : (discardRecords skipped).filter (·.level = .info) = [] := by
      unfold discardRecords
      split <;> rfl
    rw [watched, Findings.lines, List.filter_append, filter_logged _ unreported, takenEq,
      discarded, List.append_nil, List.filter_eq_self]
    intro record among
    obtain ⟨frame, _, rfl⟩ := List.mem_map.1 among
    rfl
  refine ⟨congrArg Findings.outcome watched, linesEq, ?_, ?_, skipped, counted, ?_⟩
  · intro frame among
    exact ⟨frame.layout, Frame.encode_eq_ok_iff.2 ⟨Frame.validate_of_mem_scan among, rfl⟩⟩
  · rintro rfl
    refine ⟨(Frame.scan reads.flatten).map Frame.layout, ?_, Frame.stretches_scan reads.flatten⟩
    rw [linesEq, List.map_map, List.map_map]
    exact List.map_congr_left fun frame _ => raw?_shown frame
  · have unreported (event : Codec.Event) :
        decide (event.record.message = "bytes skipped while resynchronising") = false := by
      cases event <;> rfl
    have unnamed : ((Frame.scan reads.flatten).map (shown hex)).filter
        (·.message = "bytes skipped while resynchronising") = [] := by
      rw [List.filter_eq_nil_iff]
      intro record among
      obtain ⟨frame, _, rfl⟩ := List.mem_map.1 among
      rw [decide_eq_true_eq]
      exact text_ne_skipped frame
    rw [watched, Findings.reports, List.filter_append, filter_logged _ unreported, takenEq,
      unnamed, List.nil_append]
    unfold discardRecords
    split <;> rfl

/-- A byte that belongs to no frame and a request, the request cut in two by the reads. -/
theorem watch_accounts_for_capture_at_cut_request :
    (watch true (lineOf [.bytes [0x00, 0x10, 0x7B], .bytes [0x49, 0xC4, 0x16]])).outcome = .ok 1 ∧
    (Frame.short 0x7B 0x49 ∈ Frame.scan [0x00, 0x10, 0x7B, 0x49, 0xC4, 0x16] ∧
      ∃ wire, (Frame.short 0x7B 0x49).encode = .ok wire) ∧
    (true = true ∧ ∃ pieces,
      (watch true (lineOf [.bytes [0x00, 0x10, 0x7B], .bytes [0x49, 0xC4, 0x16]])).lines.map raw?
        = pieces.map some ∧
      Frame.Stretches pieces [0x00, 0x10, 0x7B, 0x49, 0xC4, 0x16]) := by
  have found : Frame.scan [0x00, 0x10, 0x7B, 0x49, 0xC4, 0x16] = [.short 0x7B 0x49] := by
    decide +kernel
  have among : Frame.short 0x7B 0x49 ∈ Frame.scan [0x00, 0x10, 0x7B, 0x49, 0xC4, 0x16] := by
    rw [found]
    exact List.mem_singleton_self _
  obtain ⟨outcome, _, encoded, raw, _⟩ :=
    watch_accounts_for_capture true [[0x00, 0x10, 0x7B], [0x49, 0xC4, 0x16]]
  refine ⟨?_, ⟨among, encoded _ among⟩, rfl, raw rfl⟩
  rw [← List.length_singleton, ← found]
  exact outcome

end MeterBus.Monitor
