import MeterBus.Proofs.Stream.Account
import MeterBus.Proofs.Stream.Patience

/-!
# What a line has in prospect

A line gives no more frames than one shot finds in all that is ahead of it together with the answers that
are prepared, whatever is done with it: `Line.prospect` is their number. A line that is closed has nothing
more to give from some time on either. `Line.EndsBy` bounds the times at which something becomes readable
on it, and holds of it as long as nothing is written too late.
-/

namespace MeterBus.Line

variable {line after : Line} {contacts : List Contact} {now time longest bound : Nat}

/-! ## How many frames -/

/-- The number of frames that one shot finds in what is ahead of a line and in its answers. -/
def prospect (line : Line) : Nat :=
  (Frame.oneShot (line.intake.ahead ++ line.answers.flatMap fun answer =>
    answer.flatMap (·.chunk.content))).frames.length

/-- Contacts with a strict line give no more frames than it has in prospect. -/
theorem Undergoes.length_frames_le (strict : line.reader.Strict)
    (undergoes : line.Undergoes contacts after) :
    (Poll.frames (contacts.map Contact.answer)).length ≤ line.prospect := by
  obtain ⟨_, ⟨count, gone⟩, ahead⟩ := undergoes.accounts strict
  have whole := (ahead.append ((line.answers.drop count).flatMap fun answer =>
    answer.flatMap (·.chunk.content))).oneShot
  rw [calledForth_of_drop gone, List.append_assoc, ← List.flatMap_append,
    List.take_append_drop] at whole
  rw [prospect, whole, List.length_append]
  exact Nat.le_add_right ..

/-! ## How long -/

/-- What a read leaves of an arrival is due when that was. -/
theorem mem_dues_of_cut {space : Nat} {arrival : Arrival} {later : List Arrival}
    (among : time ∈ ((arrival.cut space).2 ++ later).map (·.due)) :
    time ∈ (arrival :: later).map (·.due) := by
  obtain ⟨left, amongThem, rfl⟩ := List.mem_map.1 among
  rcases List.mem_append.1 amongThem with cut | behind
  · rw [arrival.due_cut space left cut]
    exact List.mem_cons_self ..
  · exact List.mem_cons_of_mem _ (List.mem_map_of_mem behind)

/-- What a poll leaves on its way was on its way before. -/
theorem mem_dueTimes_of_poll (among : time ∈ (line.poll now).2.1.dueTimes) : time ∈ line.dueTimes := by
  have before {reader : FrameReader} {arrivals : List Arrival}
      (among : time ∈ (pollReader now line.closed reader arrivals).arrivals.map (·.due)) :
      time ∈ arrivals.map (·.due) := by
    fun_induction pollReader now line.closed reader arrivals with
    | case5 => exact mem_dues_of_cut among
    | case6 reader settled events settledEq arrival later due space after absorbedEq polled
        inductionHypothesis => exact mem_dues_of_cut (inductionHypothesis among)
    | case1 | case2 | case3 | case4 | case7 => exact among
  exact before among

/-- A closed transport that gives nothing yet has something on its way. -/
theorem exists_due_of_pollReader {ended : Bool} {reader : FrameReader} {arrivals : List Arrival}
    (closed : ended = true) (nothing : (pollReader now ended reader arrivals).poll = .pending) :
    ∃ due ∈ arrivals.map (·.due), now < due := by
  fun_induction pollReader now ended reader arrivals with
  | case1 reader arrivals poll settled events settledEq =>
    have known := reader.settle_ne_pending
    rw [settledEq] at known
    exact absurd (congrArg some nothing) known
  | case2 reader settled events settledEq _ poll after absorbedEq =>
    have known := settled.makeRoom.absorb_ne_pending .ended
    rw [absorbedEq] at known
    exact absurd (congrArg some nothing) known
  | case3 reader settled events settledEq _ after absorbedEq last =>
    have known := after.settle_ne_pending
    simp only [last] at nothing
    cases given : after.settle.1 with
    | none => simp [given] at nothing
    | some poll => simp_all
  | case4 reader settled events settledEq opened => exact absurd closed opened
  | case5 reader settled events settledEq arrival later due space poll after absorbedEq =>
    have known := settled.makeRoom.absorb_ne_pending (arrival.cut space).1
    rw [absorbedEq] at known
    exact absurd (congrArg some nothing) known
  | case6 reader settled events settledEq arrival later due space after absorbedEq polled
      inductionHypothesis =>
    obtain ⟨due, among, ahead⟩ := inductionHypothesis nothing
    exact ⟨due, mem_dues_of_cut among, ahead⟩
  | case7 reader settled events settledEq arrival later early =>
    exact ⟨arrival.due, List.mem_cons_self .., Nat.lt_of_not_le early⟩

/-- A closed line that has nothing to give yet has something on its way. -/
theorem exists_due_of_pending (closed : line.closed = true) (nothing : (line.poll now).1 = .pending) :
    ∃ due ∈ line.dueTimes, now < due :=
  exists_due_of_pollReader closed nothing

/-- Whether a line is closed, all that is on its way is there at a given time, and no answer takes longer
than this to come. -/
structure EndsBy (longest bound : Nat) (line : Line) : Prop where
  closed : line.closed = true
  due : ∀ time ∈ line.dueTimes, time ≤ bound
  delay : ∀ answer ∈ line.answers, ∀ delivery ∈ answer, delivery.delay ≤ longest

namespace EndsBy

/-- A line that ends by some time does so by a later one. -/
theorem mono {later : Nat} (ends : EndsBy longest bound line) (less : bound ≤ later) :
    EndsBy longest later line :=
  ⟨ends.closed, fun time among => (ends.due time among).trans less, ends.delay⟩

/-- Polls put nothing off. -/
theorem draws (ends : EndsBy longest bound line) (draws : line.Draws after) :
    EndsBy longest bound after :=
  draws.keeps (EndsBy longest bound)
    (fun _ _ ends =>
      ⟨ends.closed, fun time among => ends.due time (mem_dueTimes_of_poll among), ends.delay⟩)
    ends

/-- What a write calls forth comes in time if the write is made in time. -/
theorem calls (ends : EndsBy longest bound line) (calls : Calls now line after)
    (inTime : now + longest ≤ bound) : EndsBy longest bound after := by
  obtain ⟨_, closed, count, gone, arrivals⟩ := calls
  constructor
  · rw [closed, ends.closed]
  · intro time among
    rw [dueTimes, arrivals, List.map_append] at among
    rcases List.mem_append.1 among with before | called
    · exact ends.due time before
    · obtain ⟨arrival, amongThem, rfl⟩ := List.mem_map.1 called
      obtain ⟨answer, prepared, arrives⟩ := List.mem_flatMap.1 amongThem
      obtain ⟨delivery, delivered, rfl⟩ := List.mem_map.1 arrives
      have delay := ends.delay answer (List.mem_of_mem_take prepared) delivery
        (List.mem_filter.1 delivered).1
      exact (Nat.add_le_add_left delay now).trans inTime
  · rw [gone]
    exact fun answer among => ends.delay answer (List.mem_of_mem_drop among)

end EndsBy

end MeterBus.Line
