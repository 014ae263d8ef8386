import SuiteBench.Execution.Capture
import SuiteBench.Proofs.Text.Utf8

/-!
# Proofs.Execution.Capture — the lines of each stream

However the bytes of two streams arrive, the lines of a stream in the log are the lines of its own
bytes, in their order.  The invariant puts together what is written already and what the rest of the
bytes will add to the unfinished line.
-/

namespace SuiteBench

/-- The stream of what arrives. -/
def Arrival.stream : Arrival → OutputStream
  | .piece s _ => s
  | .closed s => s

@[simp] theorem Arrival.stream_piece (s : OutputStream) (bytes : List UInt8) :
    (Arrival.piece s bytes).stream = s := rfl

@[simp] theorem Arrival.stream_closed (s : OutputStream) : (Arrival.closed s).stream = s := rfl

namespace Capture

variable {c : Capture} {s s' : OutputStream}

/-- The texts of the written lines of a stream. -/
def linesOf (c : Capture) (s : OutputStream) : List (List Char) :=
  (c.lines.filter (·.1 = s)).map Prod.snd

/-- The capture with the unfinished line of a stream written. -/
def endLine (c : Capture) (s : OutputStream) : Capture :=
  { c.setPending [] s with written := (s, lineText (c.pending s).reverse) :: c.written }

/-- The line feed that ends a line is not part of it. -/
theorem lineText_append_feed (bytes : List UInt8) : lineText (bytes ++ [10]) = lineText bytes := by
  simp [lineText, Text.Utf8.lossyChars_append_feed]

theorem of_concat (arrivals : List Arrival) (a : Arrival) :
    of (arrivals ++ [a]) = (of arrivals).receive a := List.foldl_concat ..

theorem byte_feed (c : Capture) (s : OutputStream) : c.byte s 10 = c.endLine s := rfl

theorem byte_of_ne {b : UInt8} (hb : b ≠ 10) (c : Capture) (s : OutputStream) :
    c.byte s b = c.setPending (b :: c.pending s) s := if_neg hb

theorem close_of_ne_nil (h : c.pending s ≠ []) : c.close s = c.endLine s :=
  if_neg (by simpa using h)

theorem close_of_nil (h : c.pending s = []) : c.close s = c := if_pos (by simpa using h)

@[simp] theorem pending_setPending (c : Capture) (bytes : List UInt8) (s : OutputStream) :
    (c.setPending bytes s).pending s = bytes := by
  cases s <;> rfl

theorem pending_setPending_of_ne (h : s' ≠ s) (c : Capture) (bytes : List UInt8) :
    (c.setPending bytes s').pending s = c.pending s := by
  cases s <;> cases s' <;> first | rfl | exact absurd rfl h

@[simp] theorem lines_setPending (c : Capture) (bytes : List UInt8) (s : OutputStream) :
    (c.setPending bytes s).lines = c.lines := by
  cases s <;> rfl

@[simp] theorem lines_endLine (c : Capture) (s : OutputStream) :
    (c.endLine s).lines = c.lines ++ [(s, lineText (c.pending s).reverse)] := by
  simp [endLine, lines]

@[simp] theorem pending_endLine (c : Capture) (s : OutputStream) : (c.endLine s).pending s = [] := by
  cases s <;> rfl

theorem pending_endLine_of_ne (h : s' ≠ s) (c : Capture) :
    (c.endLine s').pending s = c.pending s := by
  cases s <;> cases s' <;> first | rfl | exact absurd rfl h

/-! ### One stream among the two -/

/-- Whether a stream stands in two captures alike. -/
def AgreeOn (s : OutputStream) (c c' : Capture) : Prop :=
  c'.linesOf s = c.linesOf s ∧ c'.pending s = c.pending s

theorem AgreeOn.refl (s : OutputStream) (c : Capture) : AgreeOn s c c := ⟨rfl, rfl⟩

theorem AgreeOn.trans {c' c'' : Capture} (h : AgreeOn s c c') (h' : AgreeOn s c' c'') :
    AgreeOn s c c'' := ⟨h'.1.trans h.1, h'.2.trans h.2⟩

theorem agreeOn_setPending (h : s' ≠ s) (c : Capture) (bytes : List UInt8) :
    AgreeOn s c (c.setPending bytes s') :=
  ⟨by rw [linesOf, lines_setPending, linesOf], pending_setPending_of_ne h c bytes⟩

theorem agreeOn_endLine (h : s' ≠ s) (c : Capture) : AgreeOn s c (c.endLine s') :=
  ⟨by simp [linesOf, h], pending_endLine_of_ne h c⟩

theorem agreeOn_byte (h : s' ≠ s) (c : Capture) (b : UInt8) : AgreeOn s c (c.byte s' b) := by
  by_cases hb : b = 10
  · rw [hb, byte_feed]
    exact agreeOn_endLine h c
  · rw [byte_of_ne hb]
    exact agreeOn_setPending h c _

/-- What arrives on one stream leaves the other alone. -/
theorem agreeOn_receive {a : Arrival} (h : a.stream ≠ s) (c : Capture) :
    AgreeOn s c (c.receive a) := by
  cases a with
  | piece s' bytes =>
    replace h : s' ≠ s := h
    rw [receive]
    induction bytes generalizing c with
    | nil => exact .refl s c
    | cons b bytes ih => exact (agreeOn_byte h c b).trans (ih (c.byte s' b))
  | closed s' =>
    rw [receive]
    by_cases hnil : c.pending s' = []
    · rw [close_of_nil hnil]
      exact .refl s c
    · rw [close_of_ne_nil hnil]
      exact agreeOn_endLine h c

/-! ### The lines of a stream -/

/-- What is written of a stream, and what more bytes and its end will add. -/
def total (c : Capture) (s : OutputStream) (rest : List UInt8) : List (List Char) :=
  c.linesOf s ++ streamLines.cut (c.pending s) rest

theorem total_byte (c : Capture) (s : OutputStream) (b : UInt8) (rest : List UInt8) :
    (c.byte s b).total s rest = c.total s (b :: rest) := by
  by_cases hb : b = 10
  · subst hb
    rw [byte_feed, total, total, pending_endLine, streamLines.cut, if_pos rfl]
    simp [linesOf]
  · rw [byte_of_ne hb, total, total, pending_setPending, streamLines.cut, if_neg hb]
    simp [linesOf]

theorem total_receive_piece (c : Capture) (s : OutputStream) (bytes rest : List UInt8) :
    (c.receive (.piece s bytes)).total s rest = c.total s (bytes ++ rest) := by
  rw [receive]
  induction bytes generalizing c with
  | nil => rfl
  | cons b bytes ih => rw [List.foldl_cons, ih, total_byte, List.cons_append]

theorem cut_nil {line : List UInt8} (h : line ≠ []) :
    streamLines.cut line [] = [lineText line.reverse] := by
  cases line with
  | nil => exact absurd rfl h
  | cons b line => rfl

theorem linesOf_close (c : Capture) (s : OutputStream) : (c.close s).linesOf s = c.total s [] := by
  by_cases h : c.pending s = []
  · rw [close_of_nil h, total, h, streamLines.cut, List.append_nil]
  · rw [close_of_ne_nil h, total, cut_nil h]
    simp [linesOf]

/-- Whether a stream arrives as some bytes, in pieces, and is closed after them. -/
def Brings (arrivals : List Arrival) (s : OutputStream) (bytes : List UInt8) : Prop :=
  ∃ pieces : List (List UInt8), pieces.flatten = bytes ∧
    arrivals.filter (·.stream = s) = pieces.map (.piece s) ++ [.closed s]

theorem agreeOn_foldl {arrivals : List Arrival} (h : arrivals.filter (·.stream = s) = [])
    (c : Capture) : AgreeOn s c (arrivals.foldl receive c) := by
  induction arrivals generalizing c with
  | nil => exact .refl s c
  | cons a arrivals ih =>
    obtain ⟨ha, hrest⟩ := List.forall_mem_cons.mp (List.filter_eq_nil_iff.mp h)
    exact (agreeOn_receive (by simpa using ha) c).trans
      (ih (List.filter_eq_nil_iff.mpr hrest) (c.receive a))

theorem linesOf_foldl {arrivals : List Arrival} {bytes : List UInt8} (h : Brings arrivals s bytes)
    (c : Capture) : (arrivals.foldl receive c).linesOf s = c.total s bytes := by
  obtain ⟨pieces, rfl, h⟩ := h
  induction arrivals generalizing pieces c with
  | nil => simp at h
  | cons a arrivals ih =>
    rw [List.foldl_cons]
    by_cases ha : a.stream = s
    · rw [List.filter_cons_of_pos (by simpa using ha)] at h
      cases pieces with
      | nil =>
        obtain ⟨rfl, hnone⟩ := List.cons_eq_cons.mp h
        rw [(agreeOn_foldl hnone _).1]
        exact linesOf_close c s
      | cons piece pieces =>
        obtain ⟨rfl, hrest⟩ := List.cons_eq_cons.mp h
        rw [ih _ pieces hrest, total_receive_piece, List.flatten_cons]
    · rw [List.filter_cons_of_neg (by simpa using ha)] at h
      have hagree := agreeOn_receive ha c
      rw [ih _ pieces h, total, total, hagree.1, hagree.2]

/-- The lines of a stream are the lines of its bytes, whatever arrives in between on the other. -/
theorem linesOf_of {arrivals : List Arrival} {bytes : List UInt8} (h : Brings arrivals s bytes) :
    (of arrivals).linesOf s = streamLines bytes := by
  rw [of, linesOf_foldl h]
  cases s <;> rfl

end Capture

end SuiteBench
