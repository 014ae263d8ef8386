import SuiteBench.Execution.Relay
import SuiteBench.Proofs.Execution.Capture

/-!
# Proofs.Execution.Relay — what a schedule leaves in the log

Whatever order the tasks take their turns in, they do what a single capture does with the bytes in the
order in which their lines were sent.  Each reader follows the capture of its own stream; the channel
and the writer keep the order in which lines are sent; and the executor's own line comes last, unless
it has given up a reader that may still send.
-/

namespace SuiteBench

variable {s : OutputStream} {bytes : List UInt8} {arrivals new : List Arrival}

namespace LineReader

variable {rd rd' : LineReader}

/-! ### One reader -/

/-- The line that is being read without its line feed. -/
def body (rd : LineReader) : List UInt8 := if rd.isWhole then rd.line.tail else rd.line

/-- What a reader still brings: the line feed of a whole line and all bytes behind it. -/
def ahead (rd : LineReader) : List UInt8 :=
  (if rd.isWhole then [10] else []) ++ (rd.arrived ++ rd.coming)

theorem isWhole_iff : rd.isWhole = true ↔ ∃ line, rd.line = 10 :: line := by
  rw [isWhole, beq_iff_eq, List.head?_eq_some_iff]

theorem body_of_whole {line : List UInt8} (h : rd.line = 10 :: line) : rd.body = line := by
  rw [body, if_pos (isWhole_iff.mpr ⟨line, h⟩), h, List.tail_cons]

theorem body_of_not_whole (h : rd.isWhole = false) : rd.body = rd.line := by
  rw [body, if_neg (by simp [h])]

theorem ahead_of_whole (h : rd.isWhole = true) : rd.ahead = 10 :: (rd.arrived ++ rd.coming) := by
  rw [ahead, if_pos h, List.singleton_append]

theorem ahead_of_not_whole (h : rd.isWhole = false) : rd.ahead = rd.arrived ++ rd.coming := by
  rw [ahead, if_neg (by simp [h]), List.nil_append]

theorem arrive?_eq_some {n : Nat} : rd.arrive? n = some rd' ↔ (0 < n ∧ n ≤ rd.coming.length) ∧
    { rd with coming := rd.coming.drop n, arrived := rd.arrived ++ rd.coming.take n } = rd' := by
  simp [arrive?]

theorem read?_eq_some : rd.read? = some rd' ↔ rd.status = .reading ∧ rd.isWhole = false ∧
    ∃ b rest, rd.arrived = b :: rest ∧ { rd with arrived := rest, line := b :: rd.line } = rd' := by
  rw [read?]
  split
  · next hstatus hwhole harrived => simp [hstatus, hwhole, harrived]
  · next hno =>
    simp only [reduceCtorEq, false_iff]
    rintro ⟨hstatus, hwhole, b, rest, harrived, -⟩
    exact hno b rest hstatus hwhole harrived

theorem send?_eq_some {text : List Char} : rd.send? = some (text, rd') ↔
    (rd.status = .reading ∧ rd.line ≠ [] ∧ (rd.isWhole = true ∨ rd.atEnd = true)) ∧
      Capture.lineText rd.line.reverse = text ∧ { rd with line := [] } = rd' := by
  simp [send?, and_assoc]

theorem finish?_eq_some : rd.finish? = some rd' ↔
    (rd.status = .reading ∧ rd.line = [] ∧ rd.atEnd = true) ∧ { rd with status := .ended } = rd' := by
  simp [finish?, and_assoc]

theorem fail?_eq_some : rd.fail? = some rd' ↔
    (rd.status = .reading ∧ rd.isWhole = false) ∧ { rd with status := .stopped } = rd' := by
  simp [fail?]

theorem fail?_of_stop? (h : rd.stop? = some rd') : rd.fail? = some rd' := by
  rw [stop?] at h
  split at h
  · exact h
  · cases h

theorem atEnd_iff : rd.atEnd = true ↔ rd.arrived = [] ∧ rd.coming = [] := by
  simp [atEnd]

/-- How a reader stands to a capture of its stream: the capture has seen what the reader has read, but
for a line feed whose line is not sent yet, and it has seen the end if the reader has. -/
inductive Follows (s : OutputStream) (bytes : List UInt8) (arrivals : List Arrival) (rd : LineReader) :
    Prop
  | opened (pieces : List (List UInt8))
      (hpieces : arrivals.filter (·.stream = s) = pieces.map (.piece s))
      (hbytes : pieces.flatten ++ rd.ahead = bytes)
      (hpending : (Capture.of arrivals).pending s = rd.body) (hstatus : rd.status ≠ .ended)
  | closed (h : Capture.Brings arrivals s bytes) (hline : rd.line = []) (hend : rd.atEnd = true)
      (hpending : (Capture.of arrivals).pending s = [])

/-- A reader that has ended has brought all bytes of its stream. -/
theorem Follows.brings (h : rd.Follows s bytes arrivals) (hended : rd.status = .ended) :
    Capture.Brings arrivals s bytes := by
  cases h with
  | opened _ _ _ _ hstatus => exact absurd hended hstatus
  | closed h _ _ _ => exact h

/-- What arrives on the other stream does not matter. -/
theorem Follows.other (h : rd.Follows s bytes arrivals) (hnew : ∀ a ∈ new, a.stream ≠ s) :
    rd.Follows s bytes (arrivals ++ new) := by
  have hnone : new.filter (·.stream = s) = [] :=
    List.filter_eq_nil_iff.mpr fun a ha => by simpa using hnew a ha
  have hfilter : (arrivals ++ new).filter (·.stream = s) = arrivals.filter (·.stream = s) := by
    rw [List.filter_append, hnone, List.append_nil]
  have hpending : (Capture.of (arrivals ++ new)).pending s = (Capture.of arrivals).pending s := by
    rw [Capture.of, List.foldl_append]
    exact (Capture.agreeOn_foldl hnone _).2
  cases h with
  | opened pieces hpieces hbytes hp hstatus =>
    exact .opened pieces (hfilter.trans hpieces) hbytes (hpending.trans hp) hstatus
  | closed h hline hend hp =>
    obtain ⟨pieces, hbytes, hpieces⟩ := h
    exact .closed ⟨pieces, hbytes, hfilter.trans hpieces⟩ hline hend (hpending.trans hp)

/-- A turn of a reader: what it stands for as arrivals, and the texts that are sent in it. -/
structure Goes (s : OutputStream) (bytes : List UInt8) (arrivals new : List Arrival)
    (texts : List (List Char)) (rd rd' : LineReader) : Prop where
  reading : rd'.status = .reading ∨ texts ≠ [] → rd.status = .reading
  givenUp : rd'.givenUp = rd.givenUp
  stream : ∀ a ∈ new, a.stream = s
  lines : (Capture.of (arrivals ++ new)).lines =
    (Capture.of arrivals).lines ++ texts.map fun text => (s, text)
  follows : rd'.Follows s bytes (arrivals ++ new)

theorem goes_arrive {n : Nat} (h : rd.Follows s bytes arrivals) (hstep : rd.arrive? n = some rd') :
    Goes s bytes arrivals [] [] rd rd' := by
  obtain ⟨⟨hpos, hle⟩, rfl⟩ := arrive?_eq_some.mp hstep
  refine ⟨by simp, rfl, nofun, by simp, ?_⟩
  rw [List.append_nil]
  cases h with
  | opened pieces hpieces hbytes hpending hstatus =>
    refine .opened pieces hpieces ?_ hpending hstatus
    simpa [ahead, isWhole] using hbytes
  | closed _ _ hend _ =>
    rw [(atEnd_iff.mp hend).2] at hle
    exact absurd hle (Nat.not_le_of_lt hpos)

theorem goes_read (h : rd.Follows s bytes arrivals) (hstep : rd.read? = some rd') :
    ∃ new, Goes s bytes arrivals new [] rd rd' := by
  obtain ⟨hreading, hwhole, b, rest, harrived, rfl⟩ := read?_eq_some.mp hstep
  cases h with
  | closed _ _ hend _ =>
    rw [(atEnd_iff.mp hend).1] at harrived
    cases harrived
  | opened pieces hpieces hbytes hpending hstatus =>
    rw [ahead_of_not_whole hwhole, harrived] at hbytes
    rw [body_of_not_whole hwhole] at hpending
    by_cases hb : b = 10
    · -- the capture sees the line feed when the line is sent
      subst hb
      refine ⟨[], fun _ => hreading, rfl, nofun, by simp, ?_⟩
      rw [List.append_nil]
      refine .opened pieces hpieces ?_ ?_ hstatus
      · rw [ahead_of_whole rfl]
        exact hbytes
      · rw [body_of_whole rfl, hpending]
    · have hbyte : Capture.of (arrivals ++ [.piece s [b]]) =
          (Capture.of arrivals).setPending (b :: rd.line) s := by
        rw [Capture.of_concat, Capture.receive, List.foldl_cons, List.foldl_nil,
          Capture.byte_of_ne hb, hpending]
      have hopen : ({ rd with arrived := rest, line := b :: rd.line } : LineReader).isWhole = false := by
        simpa [isWhole] using hb
      refine ⟨[.piece s [b]], fun _ => hreading, rfl, by simp, by simp [hbyte], ?_⟩
      refine .opened (pieces ++ [[b]]) (by simp [hpieces]) ?_ ?_ hstatus
      · rw [ahead_of_not_whole hopen]
        simpa using hbytes
      · rw [body_of_not_whole hopen, hbyte, Capture.pending_setPending]

theorem goes_send {text : List Char} (h : rd.Follows s bytes arrivals)
    (hstep : rd.send? = some (text, rd')) : ∃ new, Goes s bytes arrivals new [text] rd rd' := by
  obtain ⟨⟨hreading, hline, hready⟩, rfl, rfl⟩ := send?_eq_some.mp hstep
  cases h with
  | closed _ hnil _ _ => exact absurd hnil hline
  | opened pieces hpieces hbytes hpending hstatus =>
    cases hwhole : rd.isWhole with
    | true =>
      obtain ⟨line, hfeed⟩ := isWhole_iff.mp hwhole
      have hbyte : Capture.of (arrivals ++ [.piece s [10]]) = (Capture.of arrivals).endLine s :=
        Capture.of_concat _ _
      rw [ahead_of_whole hwhole] at hbytes
      rw [body_of_whole hfeed] at hpending
      refine ⟨[.piece s [10]], fun _ => hreading, rfl, by simp, ?_, ?_⟩
      · rw [hbyte, Capture.lines_endLine, hpending, hfeed, List.reverse_cons,
          Capture.lineText_append_feed, List.map_singleton]
      · refine .opened (pieces ++ [[10]]) (by simp [hpieces]) ?_ ?_ hstatus
        · rw [ahead_of_not_whole rfl]
          simpa using hbytes
        · rw [hbyte, Capture.pending_endLine, body_of_not_whole rfl]
    | false =>
      -- the last line of the stream has no line feed: the capture sees the end
      have hend : rd.atEnd = true := hready.resolve_left (by simp [hwhole])
      rw [ahead_of_not_whole hwhole, (atEnd_iff.mp hend).1, (atEnd_iff.mp hend).2] at hbytes
      rw [body_of_not_whole hwhole] at hpending
      have hclose : Capture.of (arrivals ++ [.closed s]) = (Capture.of arrivals).endLine s := by
        rw [Capture.of_concat, Capture.receive, Capture.close_of_ne_nil (hpending ▸ hline)]
      refine ⟨[.closed s], fun _ => hreading, rfl, by simp, ?_, ?_⟩
      · rw [hclose, Capture.lines_endLine, hpending, List.map_singleton]
      · exact .closed ⟨pieces, by simpa using hbytes, by simp [hpieces]⟩ rfl hend (by simp [hclose])

theorem goes_finish (h : rd.Follows s bytes arrivals) (hstep : rd.finish? = some rd') :
    ∃ new, Goes s bytes arrivals new [] rd rd' := by
  obtain ⟨⟨hreading, hline, hend⟩, rfl⟩ := finish?_eq_some.mp hstep
  cases h with
  | closed h _ _ hpending =>
    exact ⟨[], fun _ => hreading, rfl, nofun, by simp, by simpa using .closed h hline hend hpending⟩
  | opened pieces hpieces hbytes hpending hstatus =>
    have hopen : rd.isWhole = false := by simp [isWhole, hline]
    rw [ahead_of_not_whole hopen, (atEnd_iff.mp hend).1, (atEnd_iff.mp hend).2] at hbytes
    rw [body_of_not_whole hopen, hline] at hpending
    have hclose : Capture.of (arrivals ++ [.closed s]) = Capture.of arrivals := by
      rw [Capture.of_concat, Capture.receive, Capture.close_of_nil hpending]
    refine ⟨[.closed s], fun _ => hreading, rfl, by simp, by simp [hclose], ?_⟩
    exact .closed ⟨pieces, by simpa using hbytes, by simp [hpieces]⟩ hline hend (hclose ▸ hpending)

theorem goes_fail (h : rd.Follows s bytes arrivals) (hstep : rd.fail? = some rd') :
    Goes s bytes arrivals [] [] rd rd' := by
  obtain ⟨⟨hreading, -⟩, rfl⟩ := fail?_eq_some.mp hstep
  refine ⟨fun _ => hreading, rfl, nofun, by simp, ?_⟩
  rw [List.append_nil]
  cases h with
  | opened pieces hpieces hbytes hpending hstatus =>
    exact .opened pieces hpieces hbytes hpending nofun
  | closed h hline hend hpending => exact .closed h hline hend hpending

/-- Being asked to stop changes nothing of what was read. -/
theorem Follows.giveUp (h : rd.Follows s bytes arrivals) :
    ({ rd with givenUp := true } : LineReader).Follows s bytes arrivals := by
  cases h with
  | opened pieces hpieces hbytes hpending hstatus =>
    exact .opened pieces hpieces hbytes hpending hstatus
  | closed h hline hend hpending => exact .closed h hline hend hpending

end LineReader

/-! ### Messages -/

namespace LogMessage

/-- The line of a stream that a message brings. -/
def line? (m : LogMessage) : Option (OutputStream × List Char) := m.origin.map (·, m.text)

/-- The line of the executor's own that a message brings. -/
def note? (m : LogMessage) : Option (List Char) := if m.origin = none then some m.text else none

/-- The message of a line of a stream. -/
def ofLine (l : OutputStream × List Char) : LogMessage := ⟨some l.1, l.2⟩

/-- The message of a line of the executor's own. -/
def ofNote (text : List Char) : LogMessage := ⟨none, text⟩

theorem filterMap_line?_map (ls : List (OutputStream × List Char)) :
    (ls.map ofLine).filterMap line? = ls := by
  rw [List.filterMap_map]
  exact List.filterMap_some

theorem filterMap_note?_map (ls : List (OutputStream × List Char)) :
    (ls.map ofLine).filterMap note? = [] := by
  rw [List.filterMap_map]
  exact List.filterMap_eq_nil_iff.mpr fun _ _ => rfl

/-- Messages without a line of the executor's own are lines of streams. -/
theorem eq_map_ofLine {ms : List LogMessage} (h : ms.filterMap note? = []) :
    ms = (ms.filterMap line?).map ofLine := by
  induction ms with
  | nil => rfl
  | cons m ms ih =>
    obtain ⟨origin, text⟩ := m
    cases origin with
    | none => simp [note?] at h
    | some s =>
      have hrest := ih (by simpa [note?] using h)
      exact congrArg (ofLine (s, text) :: ·) hrest

end LogMessage

/-- The line that the writer has taken from the channel. -/
def WriterState.held : WriterState → List LogMessage
  | .writing m | .ending m => [m]
  | .waiting | .closed => []

/-- What the writer has written of a line that it has not ended. -/
def WriterState.begun : WriterState → ByteArray
  | .ending m => (String.ofList m.text).toUTF8
  | _ => .empty

namespace RunPhase

/-- The line that the executor has sent. -/
def notes (note : List Char) : RunPhase → List (List Char)
  | .cleaning .deadline | .closing .deadline | .finished .deadline => [note]
  | _ => []

/-- Whether the executor has still to wait for a reader. -/
def Awaits (s : OutputStream) : RunPhase → Prop
  | .watching => True
  | .draining _ left => s ∈ left
  | _ => False

/-- Whether the executor has let go of the channel. -/
def HasLetGo : RunPhase → Prop
  | .closing _ | .finished _ => True
  | _ => False

theorem notes_of_awaits {note : List Char} {p : RunPhase} (h : p.Awaits s) : p.notes note = [] := by
  cases p <;> first | rfl | cases h

end RunPhase

namespace Relay

variable {input : OutputStream → List UInt8} {note : List Char} {sent : List LogMessage}
  {r r' : Relay}

@[simp] theorem reader_setReader (r : Relay) (rd : LineReader) (s : OutputStream) :
    (r.setReader rd s).reader s = rd := by
  cases s <;> rfl

/-- What holds of the new reader and of the other one holds of both. -/
theorem forall_setReader {P : OutputStream → LineReader → Prop} {rd : LineReader} (hnew : P s rd)
    (hother : ∀ s', s' ≠ s → P s' (r.reader s')) (s' : OutputStream) :
    P s' ((r.setReader rd s).reader s') := by
  cases s <;> cases s' <;> first | exact hnew | exact hother _ nofun

@[simp] theorem setReader_queue (r : Relay) (rd : LineReader) (s : OutputStream) :
    (r.setReader rd s).queue = r.queue := by cases s <;> rfl

@[simp] theorem setReader_writer (r : Relay) (rd : LineReader) (s : OutputStream) :
    (r.setReader rd s).writer = r.writer := by cases s <;> rfl

@[simp] theorem setReader_file (r : Relay) (rd : LineReader) (s : OutputStream) :
    (r.setReader rd s).file = r.file := by cases s <;> rfl

@[simp] theorem setReader_phase (r : Relay) (rd : LineReader) (s : OutputStream) :
    (r.setReader rd s).phase = r.phase := by cases s <;> rfl

/-! ### What an action does -/

/-- The actions of the tasks as rules. -/
inductive Steps (note : List Char) (r : Relay) : RelayAction → Relay → Prop
  | arrive {s : OutputStream} {n : Nat} {rd : LineReader} (h : (r.reader s).arrive? n = some rd) :
      Steps note r (.arrive s n) (r.setReader rd s)
  | read {s : OutputStream} {rd : LineReader} (h : (r.reader s).read? = some rd) :
      Steps note r (.read s) (r.setReader rd s)
  | send {s : OutputStream} {text : List Char} {rd : LineReader}
      (h : (r.reader s).send? = some (text, rd)) :
      Steps note r (.send s) ((r.setReader rd s).push ⟨some s, text⟩)
  | finish {s : OutputStream} {rd : LineReader} (h : (r.reader s).finish? = some rd) :
      Steps note r (.finish s) (r.setReader rd s)
  | fail {s : OutputStream} {rd : LineReader} (h : (r.reader s).fail? = some rd) :
      Steps note r (.fail s) (r.setReader rd s)
  | stop {s : OutputStream} {rd : LineReader} (h : (r.reader s).stop? = some rd) :
      Steps note r (.stop s) (r.setReader rd s)
  | notice {e : RunEnding} (h : r.phase = .watching) :
      Steps note r (.notice e) { r with phase := .draining e [.out, .err] }
  | joined {e : RunEnding} {s : OutputStream} {left : List OutputStream}
      (h : r.phase = .draining e (s :: left)) (hdone : (r.reader s).status ≠ .reading) :
      Steps note r .joined { r with phase := .draining e left }
  | giveUp {e : RunEnding} {s : OutputStream} {left : List OutputStream}
      (h : r.phase = .draining e (s :: left)) :
      Steps note r .giveUp
        { r.setReader { r.reader s with givenUp := true } s with phase := .draining e left }
  | settle {e : RunEnding} (h : r.phase = .draining e []) :
      Steps note r .settle { r.annotate note e with phase := .cleaning e }
  | release {e : RunEnding} (h : r.phase = .cleaning e) :
      Steps note r .release { r with phase := .closing e }
  | receive {m : LogMessage} {queue : List LogMessage} (hwriter : r.writer = .waiting)
      (hqueue : r.queue = m :: queue) :
      Steps note r .receive { r with writer := .writing m, queue := queue }
  | writeText {m : LogMessage} (h : r.writer = .writing m) :
      Steps note r .writeText
        { r with writer := .ending m, file := r.file ++ (String.ofList m.text).toUTF8 }
  | writeFeed {m : LogMessage} (h : r.writer = .ending m) :
      Steps note r .writeFeed { r with writer := .waiting, file := r.file ++ "\n".toUTF8 }
  | close {e : RunEnding} (hwriter : r.writer = .waiting) (hqueue : r.queue = [])
      (hphase : r.phase = .closing e) (hdone : ∀ s, (r.reader s).status ≠ .reading) :
      Steps note r .close { r with writer := .closed }
  | conclude {e : RunEnding} (hwriter : r.writer = .closed) (hphase : r.phase = .closing e) :
      Steps note r .conclude { r with phase := .finished e }

theorem forall_stream {P : OutputStream → Prop} : (∀ s, P s) ↔ P .out ∧ P .err :=
  ⟨fun h => ⟨h .out, h .err⟩, fun h s => by cases s <;> simp [h]⟩

theorem step?_eq_some_iff {a : RelayAction} : r.step? note a = some r' ↔ Steps note r a r' := by
  constructor
  · intro h
    cases a with
    | arrive s n =>
      obtain ⟨rd, hrd, rfl⟩ := Option.map_eq_some_iff.mp h
      exact .arrive hrd
    | read s =>
      obtain ⟨rd, hrd, rfl⟩ := Option.map_eq_some_iff.mp h
      exact .read hrd
    | send s =>
      obtain ⟨⟨text, rd⟩, hrd, rfl⟩ := Option.map_eq_some_iff.mp h
      exact .send hrd
    | finish s =>
      obtain ⟨rd, hrd, rfl⟩ := Option.map_eq_some_iff.mp h
      exact .finish hrd
    | fail s =>
      obtain ⟨rd, hrd, rfl⟩ := Option.map_eq_some_iff.mp h
      exact .fail hrd
    | stop s =>
      obtain ⟨rd, hrd, rfl⟩ := Option.map_eq_some_iff.mp h
      exact .stop hrd
    | notice e =>
      simp only [step?] at h
      split at h <;> cases h
      exact .notice ‹_›
    | joined =>
      simp only [step?] at h
      split at h
      · split at h <;> cases h
        exact .joined ‹_› ‹_›
      · cases h
    | giveUp =>
      simp only [step?] at h
      split at h <;> cases h
      exact .giveUp ‹_›
    | settle =>
      simp only [step?] at h
      split at h <;> cases h
      exact .settle ‹_›
    | release =>
      simp only [step?] at h
      split at h <;> cases h
      exact .release ‹_›
    | receive =>
      simp only [step?] at h
      split at h <;> cases h
      exact .receive ‹_› ‹_›
    | writeText =>
      simp only [step?] at h
      split at h <;> cases h
      exact .writeText ‹_›
    | writeFeed =>
      simp only [step?] at h
      split at h <;> cases h
      exact .writeFeed ‹_›
    | close =>
      simp only [step?] at h
      split at h
      · split at h <;> cases h
        next hdone =>
        exact .close ‹_› ‹_› ‹_› (forall_stream.mpr (by simpa [reader] using hdone))
      · cases h
    | conclude =>
      simp only [step?] at h
      split at h <;> cases h
      exact .conclude ‹_› ‹_›
  · intro h
    cases h with
    | arrive h | read h | send h | finish h | fail h | stop h => rw [step?, h]; rfl
    | notice h | giveUp h | settle h | release h | writeText h | writeFeed h => rw [step?, h]
    | joined h hdone => simp [step?, h, hdone]
    | receive hwriter hqueue => rw [step?, hwriter, hqueue]
    | close hwriter hqueue hphase hdone =>
      have hout : r.out.status ≠ .reading := hdone .out
      have herr : r.err.status ≠ .reading := hdone .err
      simp [step?, hwriter, hqueue, hphase, hout, herr]
    | conclude hwriter hphase => rw [step?, hwriter, hphase]

/-! ### All tasks together -/

/-- How the tasks stand to a capture and to the messages that were sent so far. -/
structure Faithful (input : OutputStream → List UInt8) (note : List Char) (arrivals : List Arrival)
    (sent : List LogMessage) (r : Relay) : Prop where
  streams : ∀ s, (r.reader s).Follows s (input s) arrivals
  lines : sent.filterMap LogMessage.line? = (Capture.of arrivals).lines
  notes : sent.filterMap LogMessage.note? = r.phase.notes note
  /-- The channel and the writer keep the order. -/
  written : ∃ done : List LogMessage, sent = done ++ (r.writer.held ++ r.queue) ∧
    r.file = Executor.logBytes (done.map (·.text)) ++ r.writer.begun
  /-- The executor's own line is the last, unless it has given up a reader. -/
  last : (∀ s, (r.reader s).givenUp = false) →
    sent = (Capture.of arrivals).lines.map .ofLine ++ (r.phase.notes note).map .ofNote
  awaited : ∀ s, (r.reader s).status = .reading → (r.reader s).givenUp = true ∨ r.phase.Awaits s
  closed : r.writer = .closed → r.queue = [] ∧ (∀ s, (r.reader s).status ≠ .reading) ∧
    r.phase.HasLetGo
  finished : ∀ e, r.phase = .finished e → r.writer = .closed

theorem faithful_start (input : OutputStream → List UInt8) (note : List Char) :
    Faithful input note [] [] (start input) where
  streams s := by
    cases s <;> exact .opened [] rfl rfl rfl nofun
  lines := rfl
  notes := rfl
  written := ⟨[], rfl, rfl⟩
  last _ := rfl
  awaited _ _ := .inr trivial
  closed := nofun
  finished := nofun

/-- The relay after a turn of a reader that sends some lines. -/
def afterTurn (r : Relay) (rd : LineReader) (s : OutputStream) (lines : List (OutputStream × List Char)) :
    Relay :=
  { r.setReader rd s with queue := r.queue ++ lines.map .ofLine }

@[simp] theorem reader_afterTurn (r : Relay) (rd : LineReader) (s s' : OutputStream)
    (lines : List (OutputStream × List Char)) :
    (r.afterTurn rd s lines).reader s' = (r.setReader rd s).reader s' := by
  cases s' <;> rfl

@[simp] theorem phase_afterTurn (r : Relay) (rd : LineReader) (s : OutputStream)
    (lines : List (OutputStream × List Char)) : (r.afterTurn rd s lines).phase = r.phase := by
  cases s <;> rfl

theorem afterTurn_nil (r : Relay) (rd : LineReader) (s : OutputStream) :
    r.afterTurn rd s [] = r.setReader rd s := by
  cases s <;> simp [afterTurn, setReader]

/-- The executor's own line stays the last: a reader that sends was given up or is still awaited. -/
theorem Faithful.last_turn {rd : LineReader} {texts : List (List Char)}
    (h : Faithful input note arrivals sent r)
    (hgoes : (r.reader s).Goes s (input s) arrivals new texts rd)
    (hnone : ∀ s, (r.reader s).givenUp = false) :
    sent ++ (texts.map fun text => (s, text)).map .ofLine =
      (Capture.of (arrivals ++ new)).lines.map .ofLine ++ (r.phase.notes note).map .ofNote := by
  have hlast := h.last hnone
  rw [hgoes.lines, List.map_append]
  cases texts with
  | nil => simpa using hlast
  | cons text texts =>
    have hawaits : r.phase.Awaits s := by
      refine (h.awaited s (hgoes.reading (.inr (List.cons_ne_nil _ _)))).resolve_left ?_
      rw [hnone s]
      exact Bool.false_ne_true
    rw [RunPhase.notes_of_awaits hawaits] at hlast ⊢
    simpa using hlast

/-- A turn of a reader keeps the tasks faithful, with the lines that it sends. -/
theorem Faithful.turn {rd : LineReader} {texts : List (List Char)}
    (h : Faithful input note arrivals sent r)
    (hgoes : (r.reader s).Goes s (input s) arrivals new texts rd) :
    Faithful input note (arrivals ++ new) (sent ++ (texts.map fun text => (s, text)).map .ofLine)
      (r.afterTurn rd s (texts.map fun text => (s, text))) := by
  have hgiven : ∀ s', ((r.setReader rd s).reader s').givenUp = (r.reader s').givenUp :=
    forall_setReader (P := fun s' rd => rd.givenUp = (r.reader s').givenUp) hgoes.givenUp
      fun _ _ => rfl
  have hreading : ∀ s', ((r.setReader rd s).reader s').status = .reading →
      (r.reader s').status = .reading :=
    forall_setReader (P := fun s' rd => rd.status = .reading → (r.reader s').status = .reading)
      (fun hnow => hgoes.reading (.inl hnow)) fun _ _ => id
  refine ⟨fun s' => ?_, ?_, ?_, ?_, fun hnone => ?_, fun s' hnow => ?_, fun hclosed => ?_, ?_⟩
  · rw [reader_afterTurn]
    refine forall_setReader (P := fun s rd => rd.Follows s (input s) (arrivals ++ new))
      hgoes.follows (fun s' hs => (h.streams s').other fun a ha => ?_) s'
    rw [hgoes.stream a ha]
    exact hs.symm
  · rw [List.filterMap_append, h.lines, LogMessage.filterMap_line?_map, hgoes.lines]
  · rw [List.filterMap_append, h.notes, LogMessage.filterMap_note?_map, List.append_nil,
      phase_afterTurn]
  · obtain ⟨done, hsent, hfile⟩ := h.written
    exact ⟨done, by simp [hsent, afterTurn], by simpa [afterTurn] using hfile⟩
  · rw [phase_afterTurn]
    exact h.last_turn hgoes fun s' => by rw [← hgiven s', ← hnone s', reader_afterTurn]
  · rw [reader_afterTurn] at hnow ⊢
    rw [hgiven, phase_afterTurn]
    exact h.awaited s' (hreading s' hnow)
  · obtain ⟨hqueue, hstatus, hgone⟩ := h.closed (by simpa [afterTurn] using hclosed)
    have htexts : texts = [] := by
      by_contra hne
      exact hstatus s (hgoes.reading (.inr hne))
    refine ⟨by simp [afterTurn, htexts, hqueue], fun s' hnow => ?_, by rwa [phase_afterTurn]⟩
    rw [reader_afterTurn] at hnow
    exact hstatus s' (hreading s' hnow)
  · simpa [afterTurn] using h.finished

/-- The executor moves on without sending anything. -/
theorem Faithful.moved {p : RunPhase} (h : Faithful input note arrivals sent r)
    (hnotes : p.notes note = r.phase.notes note)
    (hawaits : ∀ s, (r.reader s).status = .reading → (r.reader s).givenUp = true ∨ p.Awaits s)
    (hgone : r.phase.HasLetGo → p.HasLetGo) (hfinished : ∀ e, p = .finished e → r.writer = .closed) :
    Faithful input note arrivals sent { r with phase := p } where
  streams := h.streams
  lines := h.lines
  notes := h.notes.trans hnotes.symm
  written := h.written
  last hnone := by
    rw [hnotes]
    exact h.last hnone
  awaited := hawaits
  closed hclosed := (h.closed hclosed).imp_right (And.imp_right hgone)
  finished := hfinished

/-- The executor asks a reader to stop. -/
theorem Faithful.giveUp (h : Faithful input note arrivals sent r) (s : OutputStream) :
    Faithful input note arrivals sent (r.setReader { r.reader s with givenUp := true } s) := by
  have hstatus : ∀ s', ((r.setReader { r.reader s with givenUp := true } s).reader s').status =
      (r.reader s').status :=
    forall_setReader (P := fun s' rd => rd.status = (r.reader s').status) rfl fun _ _ => rfl
  refine ⟨?_, h.lines, ?_, ?_, fun hnone => ?_, ?_, ?_, ?_⟩
  · exact forall_setReader (P := fun s rd => rd.Follows s (input s) arrivals) (h.streams s).giveUp
      fun s' _ => h.streams s'
  · rw [setReader_phase]
    exact h.notes
  · simpa using h.written
  · have := hnone s
    rw [reader_setReader] at this
    cases this
  · rw [setReader_phase]
    exact forall_setReader
      (P := fun s rd => rd.status = .reading → rd.givenUp = true ∨ r.phase.Awaits s)
      (fun _ => .inl rfl) fun s' _ => h.awaited s'
  · simpa [hstatus] using h.closed
  · simpa using h.finished

/-- The executor has waited for all readers and sends its own line. -/
theorem Faithful.annotate {e : RunEnding} (h : Faithful input note arrivals sent r)
    (hphase : r.phase = .draining e []) : ∃ sent,
    Faithful input note arrivals sent { r.annotate note e with phase := .cleaning e } := by
  have hnone : r.phase.notes note = [] := by rw [hphase]; rfl
  have hawaited (s : OutputStream) (hreading : (r.reader s).status = .reading) :
      (r.reader s).givenUp = true := by
    refine (h.awaited s hreading).resolve_right ?_
    rw [hphase]
    exact List.not_mem_nil
  have hopen : r.writer ≠ .closed := by
    intro hclosed
    have := (h.closed hclosed).2.2
    rw [hphase] at this
    exact this
  cases e with
  | ended _ | interrupted _ =>
    refine ⟨sent, h.moved (by rw [hnone]; rfl) (fun s hs => .inl (hawaited s hs)) ?_ nofun⟩
    rw [hphase]
    exact False.elim
  | deadline =>
    refine ⟨sent ++ [.ofNote note], ?_⟩
    have hreader (s : OutputStream) :
        ({ r.annotate note .deadline with phase := .cleaning .deadline } : Relay).reader s =
          r.reader s := by
      cases s <;> rfl
    refine ⟨fun s => ?_, ?_, ?_, ?_, fun hgiven => ?_, fun s hs => ?_, ?_, nofun⟩
    · rw [hreader]
      exact h.streams s
    · rw [List.filterMap_append, h.lines]
      exact List.append_nil _
    · rw [List.filterMap_append, h.notes, hnone]
      rfl
    · obtain ⟨done, hsent, hfile⟩ := h.written
      exact ⟨done, by simp [hsent, Relay.annotate, push, LogMessage.ofNote], hfile⟩
    · have hlast := h.last fun s => hreader s ▸ hgiven s
      rw [hlast, hnone]
      simp [RunPhase.notes]
    · rw [hreader] at hs ⊢
      exact .inl (hawaited s hs)
    · exact fun hclosed => absurd hclosed hopen

/-- The writer goes on with the lines in their order. -/
theorem Faithful.wrote {w : WriterState} {queue : List LogMessage} {file : ByteArray}
    (h : Faithful input note arrivals sent r) (hbefore : r.writer ≠ .closed) (hafter : w ≠ .closed)
    (hwritten : ∀ done : List LogMessage, sent = done ++ (r.writer.held ++ r.queue) →
      r.file = Executor.logBytes (done.map (·.text)) ++ r.writer.begun →
        ∃ done : List LogMessage, sent = done ++ (w.held ++ queue) ∧
          file = Executor.logBytes (done.map (·.text)) ++ w.begun) :
    Faithful input note arrivals sent { r with writer := w, queue := queue, file := file } where
  streams := h.streams
  lines := h.lines
  notes := h.notes
  written := by
    obtain ⟨done, hsent, hfile⟩ := h.written
    exact hwritten done hsent hfile
  last := h.last
  awaited := h.awaited
  closed hclosed := absurd hclosed hafter
  finished e he := absurd (h.finished e he) hbefore

/-- The writer sees that nobody is left who could send. -/
theorem Faithful.closes {e : RunEnding} (h : Faithful input note arrivals sent r)
    (hwriter : r.writer = .waiting) (hqueue : r.queue = []) (hphase : r.phase = .closing e)
    (hdone : ∀ s, (r.reader s).status ≠ .reading) :
    Faithful input note arrivals sent { r with writer := .closed } where
  streams := h.streams
  lines := h.lines
  notes := h.notes
  written := by
    obtain ⟨done, hsent, hfile⟩ := h.written
    rw [hwriter] at hsent hfile
    exact ⟨done, hsent, hfile⟩
  last := h.last
  awaited := h.awaited
  closed _ := ⟨hqueue, hdone, by rw [hphase]; trivial⟩
  finished _ _ := rfl

theorem logBytes_concat (lines : List (List Char)) (line : List Char) :
    Executor.logBytes (lines ++ [line]) =
      Executor.logBytes lines ++ (String.ofList line).toUTF8 ++ "\n".toUTF8 := by
  simp only [Executor.logBytes, List.map_append, String.join_append, String.toUTF8_eq_toByteArray,
    String.toByteArray_append, List.map_cons, List.map_nil, String.join_cons, String.join_nil,
    String.append_empty, ByteArray.append_assoc]

/-- So does one in which nothing is sent. -/
theorem Faithful.quietTurn {rd : LineReader} (h : Faithful input note arrivals sent r)
    (hgoes : (r.reader s).Goes s (input s) arrivals new [] rd) :
    ∃ arrivals sent, Faithful input note arrivals sent (r.setReader rd s) :=
  ⟨_, _, afterTurn_nil r rd s ▸ h.turn hgoes⟩

/-- Every action keeps the tasks faithful. -/
theorem Faithful.step {a : RelayAction} (h : Faithful input note arrivals sent r)
    (hstep : Steps note r a r') : ∃ arrivals sent, Faithful input note arrivals sent r' := by
  cases hstep with
  | arrive hrd => exact h.quietTurn (LineReader.goes_arrive (h.streams _) hrd)
  | read hrd =>
    obtain ⟨new, hgoes⟩ := LineReader.goes_read (h.streams _) hrd
    exact h.quietTurn hgoes
  | send hrd =>
    obtain ⟨new, hgoes⟩ := LineReader.goes_send (h.streams _) hrd
    exact ⟨_, _, by simpa [afterTurn, push, LogMessage.ofLine] using h.turn hgoes⟩
  | finish hrd =>
    obtain ⟨new, hgoes⟩ := LineReader.goes_finish (h.streams _) hrd
    exact h.quietTurn hgoes
  | fail hrd => exact h.quietTurn (LineReader.goes_fail (h.streams _) hrd)
  | stop hrd =>
    exact h.quietTurn (LineReader.goes_fail (h.streams _) (LineReader.fail?_of_stop? hrd))
  | notice hphase =>
    have hall (s : OutputStream) : s ∈ [OutputStream.out, .err] := by cases s <;> simp
    exact ⟨_, _, h.moved (by rw [hphase]; rfl) (fun s _ => .inr (hall s))
      (by rw [hphase]; exact False.elim) nofun⟩
  | @joined e s left hphase hdone =>
    refine ⟨_, _, h.moved (by rw [hphase]; rfl) (fun s' hreading => ?_)
      (by rw [hphase]; exact False.elim) nofun⟩
    refine (h.awaited s' hreading).imp_right fun hawaits => ?_
    rw [hphase] at hawaits
    exact (List.mem_cons.mp hawaits).resolve_left fun hs => hdone (hs ▸ hreading)
  | @giveUp e s left hphase =>
    have hgiven := h.giveUp s
    refine ⟨_, _, hgiven.moved (by rw [setReader_phase, hphase]; rfl) (fun s' hreading => ?_)
      (by rw [setReader_phase, hphase]; exact False.elim) nofun⟩
    obtain hstop | hawaits := hgiven.awaited s' hreading
    · exact .inl hstop
    · rw [setReader_phase, hphase] at hawaits
      obtain rfl | hleft := List.mem_cons.mp hawaits
      · exact .inl (by rw [reader_setReader])
      · exact .inr hleft
  | settle hphase => exact ⟨_, h.annotate hphase⟩
  | @release e hphase =>
    refine ⟨_, _, h.moved (by rw [hphase]; cases e <;> rfl) (fun s hreading => .inl ?_)
      (fun _ => trivial) nofun⟩
    refine (h.awaited s hreading).resolve_right ?_
    rw [hphase]
    exact False.elim
  | @conclude e hclosed hphase =>
    refine ⟨_, _, h.moved (by rw [hphase]; cases e <;> rfl) (fun s hreading => ?_)
      (fun _ => trivial) (fun _ _ => hclosed)⟩
    exact absurd hreading ((h.closed hclosed).2.1 s)
  | receive hwriter hqueue =>
    refine ⟨_, _, h.wrote (by simp [hwriter]) nofun fun done hsent hfile => ⟨done, ?_, ?_⟩⟩
    · simpa [hwriter, hqueue, WriterState.held] using hsent
    · simpa [hwriter, WriterState.begun] using hfile
  | writeText hwriter =>
    refine ⟨_, _, h.wrote (by simp [hwriter]) nofun fun done hsent hfile => ⟨done, ?_, ?_⟩⟩
    · simpa [hwriter, WriterState.held] using hsent
    · simp [hfile, hwriter, WriterState.begun]
  | @writeFeed m hwriter =>
    refine ⟨_, _, h.wrote (by simp [hwriter]) nofun fun done hsent hfile => ⟨done ++ [m], ?_, ?_⟩⟩
    · simpa [hwriter, WriterState.held] using hsent
    · rw [hfile, hwriter, List.map_append, List.map_singleton, logBytes_concat]
      simp [WriterState.begun]
  | close hwriter hqueue hphase hdone => exact ⟨_, _, h.closes hwriter hqueue hphase hdone⟩

/-- So does every schedule. -/
theorem Faithful.run {schedule : List RelayAction} (h : Faithful input note arrivals sent r)
    (hrun : r.run? note schedule = some r') :
    ∃ arrivals sent, Faithful input note arrivals sent r' := by
  induction schedule generalizing r arrivals sent with
  | nil =>
    cases hrun
    exact ⟨_, _, h⟩
  | cons a schedule ih =>
    rw [run?, List.foldlM_cons] at hrun
    obtain ⟨r₁, hstep, hrest⟩ := Option.bind_eq_some_iff.mp hrun
    obtain ⟨arrivals₁, sent₁, h₁⟩ := h.step (step?_eq_some_iff.mp hstep)
    exact ih h₁ hrest

end Relay

/-! ### Progress -/

/-- The actions that a reader can still bring about, at most. -/
def LineReader.work (rd : LineReader) : Nat :=
  6 * rd.coming.length + 5 * rd.arrived.length + 4 * rd.line.length +
    if rd.status = .reading then 1 else 0

/-- The same for the writer, its lines in the channel apart. -/
def WriterState.work : WriterState → Nat
  | .closed => 0
  | .waiting => 1
  | .ending _ => 2
  | .writing _ => 3

/-- The same for the executor. -/
def RunPhase.work : RunPhase → Nat
  | .finished _ => 0
  | .closing _ => 1
  | .cleaning _ => 2
  | .draining _ left => 6 + left.length
  | .watching => 9

theorem LineReader.work_lt_of_fail? {rd rd' : LineReader} (h : rd.fail? = some rd') :
    rd'.work < rd.work := by
  obtain ⟨⟨hreading, -⟩, rfl⟩ := fail?_eq_some.mp h
  simp [work, hreading]

/-- A reader that is not done can go on. -/
theorem LineReader.exists_turn {rd : LineReader} (h : rd.status = .reading) :
    (∃ rd', rd.arrive? 1 = some rd') ∨ (∃ rd', rd.read? = some rd') ∨
      (∃ p, rd.send? = some p) ∨ ∃ rd', rd.finish? = some rd' := by
  cases hwhole : rd.isWhole with
  | true =>
    obtain ⟨line, hline⟩ := isWhole_iff.mp hwhole
    have hne : rd.line ≠ [] := by simp [hline]
    exact .inr (.inr (.inl ⟨_, send?_eq_some.mpr ⟨⟨h, hne, .inl hwhole⟩, rfl, rfl⟩⟩))
  | false =>
    cases harrived : rd.arrived with
    | cons b rest =>
      exact .inr (.inl ⟨_, read?_eq_some.mpr ⟨h, hwhole, b, rest, harrived, rfl⟩⟩)
    | nil =>
      cases hcoming : rd.coming with
      | cons b coming =>
        exact .inl ⟨_, arrive?_eq_some.mpr ⟨⟨Nat.one_pos, by simp [hcoming]⟩, rfl⟩⟩
      | nil =>
        have hend : rd.atEnd = true := atEnd_iff.mpr ⟨harrived, hcoming⟩
        by_cases hline : rd.line = []
        · exact .inr (.inr (.inr ⟨_, finish?_eq_some.mpr ⟨⟨h, hline, hend⟩, rfl⟩⟩))
        · exact .inr (.inr (.inl ⟨_, send?_eq_some.mpr ⟨⟨h, hline, .inr hend⟩, rfl, rfl⟩⟩))

namespace Relay

variable {input : OutputStream → List UInt8} {note : List Char} {r r' : Relay}

/-- The actions that can still happen, at most. -/
def work (r : Relay) : Nat :=
  r.out.work + r.err.work + 3 * r.queue.length + r.writer.work + r.phase.work

theorem work_setReader (r : Relay) (rd : LineReader) (s : OutputStream) :
    (r.setReader rd s).work + (r.reader s).work = r.work + rd.work := by
  cases s <;> simp only [work, setReader, reader] <;> omega

theorem work_push (r : Relay) (m : LogMessage) : (r.push m).work = r.work + 3 := by
  simp only [work, push, List.length_append, List.length_singleton]
  omega

/-- A reader that is not done leaves the tasks something to do. -/
theorem exists_step_of_reading (h : (r.reader s).status = .reading) : ∃ a r', Steps note r a r' := by
  obtain ⟨rd, hrd⟩ | ⟨rd, hrd⟩ | ⟨p, hrd⟩ | ⟨rd, hrd⟩ := LineReader.exists_turn h
  · exact ⟨_, _, .arrive hrd⟩
  · exact ⟨_, _, .read hrd⟩
  · exact ⟨_, _, .send hrd⟩
  · exact ⟨_, _, .finish hrd⟩

/-- Until the run is over some action is possible: the channel closes in the end. -/
theorem exists_step (note : List Char) (r : Relay) :
    (∃ e, r.phase = .finished e) ∨ ∃ a r', Steps note r a r' := by
  cases hphase : r.phase with
  | finished e => exact .inl ⟨e, rfl⟩
  | watching => exact .inr ⟨.notice .deadline, _, .notice hphase⟩
  | draining e left =>
    cases left with
    | nil => exact .inr ⟨_, _, .settle hphase⟩
    | cons s left => exact .inr ⟨_, _, .giveUp hphase⟩
  | cleaning e => exact .inr ⟨_, _, .release hphase⟩
  | closing e =>
    cases hwriter : r.writer with
    | closed => exact .inr ⟨_, _, .conclude hwriter hphase⟩
    | writing m => exact .inr ⟨_, _, .writeText hwriter⟩
    | ending m => exact .inr ⟨_, _, .writeFeed hwriter⟩
    | waiting =>
      cases hqueue : r.queue with
      | cons m queue => exact .inr ⟨_, _, .receive hwriter hqueue⟩
      | nil =>
        by_cases hdone : ∀ s, (r.reader s).status ≠ .reading
        · exact .inr ⟨_, _, .close hwriter hqueue hphase hdone⟩
        · obtain ⟨s, hs⟩ := not_forall.mp hdone
          exact .inr (exists_step_of_reading (not_not.mp hs))

/-- A turn of a reader in which nothing is sent leaves less to do. -/
theorem work_setReader_lt {rd : LineReader} (h : rd.work < (r.reader s).work) :
    (r.setReader rd s).work < r.work := by
  have := work_setReader r rd s
  omega

/-- Every action leaves less to do. -/
theorem Steps.work_lt {a : RelayAction} (h : Steps note r a r') : r'.work < r.work := by
  cases h with
  | arrive hrd =>
    obtain ⟨⟨hpos, hle⟩, rfl⟩ := LineReader.arrive?_eq_some.mp hrd
    refine work_setReader_lt ?_
    simp only [LineReader.work, List.length_drop, List.length_append, List.length_take]
    omega
  | read hrd =>
    obtain ⟨-, -, b, rest, harrived, rfl⟩ := LineReader.read?_eq_some.mp hrd
    refine work_setReader_lt ?_
    simp only [LineReader.work, harrived, List.length_cons]
    omega
  | @send s _ _ hrd =>
    obtain ⟨⟨-, hline, -⟩, -, rfl⟩ := LineReader.send?_eq_some.mp hrd
    have hpos : 0 < (r.reader s).line.length := List.length_pos_iff.mpr hline
    have hset := work_setReader r { r.reader s with line := [] } s
    rw [work_push]
    simp only [LineReader.work, List.length_nil] at hset
    omega
  | finish hrd =>
    obtain ⟨⟨hreading, -, -⟩, rfl⟩ := LineReader.finish?_eq_some.mp hrd
    refine work_setReader_lt ?_
    simp [LineReader.work, hreading]
  | fail hrd => exact work_setReader_lt (LineReader.work_lt_of_fail? hrd)
  | stop hrd =>
    exact work_setReader_lt (LineReader.work_lt_of_fail? (LineReader.fail?_of_stop? hrd))
  | notice hphase | joined hphase _ | release hphase | conclude _ hphase =>
    simp [work, hphase, RunPhase.work]
  | @giveUp e s left hphase =>
    cases s <;> simp [work, setReader, reader, LineReader.work, hphase, RunPhase.work]
  | @settle e hphase =>
    cases e with
    | deadline =>
      simp only [work, annotate, push, hphase, RunPhase.work, List.length_append,
        List.length_singleton, List.length_nil]
      omega
    | ended | interrupted => simp [work, annotate, hphase, RunPhase.work]
  | receive hwriter hqueue =>
    simp only [work, hwriter, hqueue, WriterState.work, List.length_cons]
    omega
  | writeText hwriter | writeFeed hwriter | close hwriter _ _ _ =>
    simp [work, hwriter, WriterState.work]

/-- A schedule uses up what there is to do. -/
theorem length_add_work_le {schedule : List RelayAction} (h : r.run? note schedule = some r') :
    schedule.length + r'.work ≤ r.work := by
  induction schedule generalizing r with
  | nil =>
    cases h
    simp
  | cons a schedule ih =>
    rw [run?, List.foldlM_cons] at h
    obtain ⟨r₁, hstep, hrest⟩ := Option.bind_eq_some_iff.mp h
    have hlt := (step?_eq_some_iff.mp hstep).work_lt
    have hle := ih hrest
    rw [List.length_cons]
    omega

theorem work_start (input : OutputStream → List UInt8) :
    (start input).work = 6 * ((input .out).length + (input .err).length) + 12 := by
  simp only [start, work, LineReader.ofBytes, LineReader.work, WriterState.work, RunPhase.work,
    List.length_nil, if_true]
  omega

/-! ### The log -/

/-- Whether some lines are those of the streams, each stream in its own order. -/
def Interleaves (input : OutputStream → List UInt8) (lines : List (OutputStream × List Char)) : Prop :=
  ∀ s, (lines.filter (·.1 = s)).map Prod.snd = streamLines (input s)

/-- The log of a run that is over: if both streams were read to their ends, it is what one capture
makes of the streams as they arrive in some order, and if the deadline passed and no reader was given
up, the executor's own line behind it. -/
theorem Faithful.file_of_finished {e : RunEnding} (h : Faithful input note arrivals sent r)
    (hphase : r.phase = .finished e) :
    (e ≠ .deadline → r.file = Executor.logBytes (Executor.outputLines arrivals)) ∧
      (e = .deadline → (∀ s, (r.reader s).givenUp = false) →
        r.file = Executor.logBytes (Executor.outputLines arrivals ++ [note])) := by
  have hclosed := h.finished e hphase
  have hfile : r.file = Executor.logBytes (sent.map (·.text)) := by
    obtain ⟨done, hsent, hfile⟩ := h.written
    rw [hclosed, (h.closed hclosed).1] at hsent
    rw [hfile, hclosed, hsent]
    simp [WriterState.held, WriterState.begun]
  refine ⟨fun he => ?_, fun he hgiven => ?_⟩
  · have hnotes : sent.filterMap LogMessage.note? = [] := by
      rw [h.notes, hphase]
      cases e <;> first | rfl | exact absurd rfl he
    rw [hfile, LogMessage.eq_map_ofLine hnotes, h.lines, List.map_map, Executor.outputLines]
    rfl
  · have hlast := h.last hgiven
    rw [hphase, he] at hlast
    rw [hfile, hlast, List.map_append, List.map_map, Executor.outputLines]
    rfl

/-- The output of a tool on its way to the log, for all bytes of its streams and every schedule.  A
schedule is no longer than the bytes allow and can go on until the run is over.  Then, if both streams
were read to their ends, the log holds the lines of one capture of the streams as they arrive in some
order: each stream keeps its lines in their order, none is lost or doubled, and nothing else is there.
Of a run whose deadline passed this holds if no reader was given up, and the executor's own line stands
once behind all others. -/
theorem log_of_schedule {schedule : List RelayAction} {deadline budget multiplier : Nat}
    (hrun : (start input).run? (Executor.deadlineLine deadline budget multiplier).toList schedule =
      some r) :
    schedule.length ≤ 6 * ((input .out).length + (input .err).length) + 12 ∧
      ((∃ e, r.phase = .finished e) ∨ ∃ a r',
        r.step? (Executor.deadlineLine deadline budget multiplier).toList a = some r') ∧
      ∀ e, r.phase = .finished e → (∀ s, (r.reader s).status = .ended) →
        ∃ arrivals : List Arrival, (∀ s, Capture.Brings arrivals s (input s)) ∧
          Interleaves input (Capture.of arrivals).lines ∧
          (e ≠ .deadline → r.file = Executor.logBytes (Executor.outputLines arrivals)) ∧
          (e = .deadline → (∀ s, (r.reader s).givenUp = false) →
            r.file = Executor.logBytes (Executor.outputLines arrivals ++
              [(Executor.deadlineLine deadline budget multiplier).toList])) := by
  refine ⟨?_, ?_, fun e hphase hended => ?_⟩
  · have hle := length_add_work_le hrun
    rw [work_start] at hle
    omega
  · obtain hdone | ⟨a, r', hstep⟩ := exists_step _ r
    · exact .inl hdone
    · exact .inr ⟨a, r', step?_eq_some_iff.mpr hstep⟩
  · obtain ⟨arrivals, sent, h⟩ := (faithful_start input _).run hrun
    have hbrings (s : OutputStream) : Capture.Brings arrivals s (input s) :=
      (h.streams s).brings (hended s)
    exact ⟨arrivals, hbrings, fun s => Capture.linesOf_of (hbrings s), h.file_of_finished hphase⟩

/-- A tool that writes two lines, the last without a line feed, and one with a carriage return. -/
def twoLines : OutputStream → List UInt8
  | .out => [97, 10, 98]
  | .err => [101, 13, 10]

/-- A schedule in which the deadline passes while both streams are being read. -/
def lateSchedule : List RelayAction :=
  [.arrive .out 3, .read .out, .read .out, .send .out, .arrive .err 2, .read .err, .read .err,
    .notice .deadline, .read .out, .arrive .err 1, .read .err, .send .err, .send .out, .finish .out,
    .joined, .finish .err, .joined, .receive, .writeText, .writeFeed, .settle, .release, .receive,
    .writeText, .writeFeed, .receive, .writeText, .writeFeed, .receive, .writeText, .writeFeed,
    .close, .conclude]

/-- Its log holds the three lines and the executor's own behind them. -/
theorem log_of_lateSchedule : ∃ r arrivals,
    (start twoLines).run? (Executor.deadlineLine 5 2 2).toList lateSchedule = some r ∧
      Interleaves twoLines (Capture.of arrivals).lines ∧
      r.file = Executor.logBytes (Executor.outputLines arrivals ++
        [(Executor.deadlineLine 5 2 2).toList]) := by
  have hstate : ((start twoLines).run? (Executor.deadlineLine 5 2 2).toList lateSchedule).map
      (fun r => (r.phase, r.out.status, r.err.status, r.out.givenUp, r.err.givenUp)) =
        some (.finished .deadline, .ended, .ended, false, false) := by
    decide
  obtain ⟨r, hrun, hr⟩ := Option.map_eq_some_iff.mp hstate
  simp only [Prod.mk.injEq] at hr
  obtain ⟨hphase, hout, herr, hgivenOut, hgivenErr⟩ := hr
  obtain ⟨-, -, hlog⟩ := log_of_schedule hrun
  obtain ⟨arrivals, -, hlines, -, hfile⟩ := hlog _ hphase (forall_stream.mpr ⟨hout, herr⟩)
  exact ⟨r, arrivals, hrun, hlines, hfile rfl (forall_stream.mpr ⟨hgivenOut, hgivenErr⟩)⟩

end Relay

end SuiteBench
