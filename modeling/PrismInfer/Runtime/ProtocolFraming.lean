import Mathlib.Data.List.DropRight
import PrismInfer.Runtime.NativeWorker

/-!
# Framing of the protocol's pipe

`drain_protocol` cuts the bytes of the pipe into lines. The pipe delivers them in reads
of any size, and the bound on the pending bytes is checked after a read is appended and
before the complete lines are taken out. So the lines do not depend on the reads as long
as the bytes after the last newline and the next read stay within the bound
(`Fits`); a read beyond it loses the bytes and cancels the worker, however short its
lines are (`framing_iff`).
-/

namespace PrismInfer.Runtime

open PrismInfer.Lib

/-! ## Lines of a text -/

/-- The bytes after the last newline. -/
def unfinished (text : List Char) : List Char :=
  text.rtakeWhile fun c => c ≠ '\n'

/-- Newline-terminated lines as they are written. -/
def stream (lines : List (List Char)) : List Char :=
  lines.flatMap fun line => line ++ ['\n']

theorem takeLines_append (line text text' : List Char) : takeLines line (text ++ text') =
      ((takeLines line text).1 ++ (takeLines (takeLines line text).2 text').1,
        (takeLines (takeLines line text).2 text').2) := by
  induction text generalizing line with
  | nil => rfl
  | cons c text ih =>
    rw [List.cons_append, takeLines, takeLines]
    split
    · simp only [ih, List.cons_append]
    · exact ih _

theorem takeLines_snd (text : List Char) : (takeLines [] text).2 = unfinished text := by
  induction text using List.reverseRecOn with
  | nil => rfl
  | append_singleton text c ih =>
    rw [takeLines_append, ih]
    show (takeLines (unfinished text) [c]).2 = List.rtakeWhile _ (text ++ [c])
    rw [List.rtakeWhile_concat, takeLines]
    by_cases hc : c = '\n'
    · rw [if_pos hc, if_neg (by simpa using hc)]
      rfl
    · rw [if_neg hc, if_pos (by simpa using hc)]
      rfl

theorem takeLines_word {word : List Char} (hword : '\n' ∉ word) (start : List Char) :
    takeLines start word = ([], start ++ word) := by
  induction word generalizing start with
  | nil => rw [takeLines, List.append_nil]
  | cons c word ih =>
    rw [List.mem_cons, not_or] at hword
    rw [takeLines, if_neg (Ne.symm hword.1), ih hword.2, List.append_assoc]
    rfl

/-- Cutting a text where it was read makes no difference: the unfinished line is all that
matters of the bytes before. -/
theorem takeLines_unfinished (text chunk : List Char) :
    takeLines [] (unfinished text ++ chunk) = takeLines (unfinished text) chunk := by
  have hnone : '\n' ∉ unfinished text := by
    intro hmem
    have hall := List.mem_rtakeWhile_imp hmem
    simp at hall
  rw [takeLines_append, takeLines_word hnone, List.nil_append, List.nil_append]

theorem takeLines_read (text chunk : List Char) : takeLines [] (text ++ chunk) =
      ((takeLines [] text).1 ++ (takeLines [] (unfinished text ++ chunk)).1,
        (takeLines [] (unfinished text ++ chunk)).2) := by
  rw [takeLines_append, takeLines_snd, takeLines_unfinished]

/-- A line without a newline in it is taken whole. -/
theorem takeLines_line {line : List Char} (hline : '\n' ∉ line) (start rest : List Char) :
    takeLines start (line ++ '\n' :: rest) =
      ((start ++ line) :: (takeLines [] rest).1, (takeLines [] rest).2) := by
  induction line generalizing start with
  | nil =>
    rw [List.nil_append, takeLines, if_pos rfl, List.append_nil]
  | cons c line ih =>
    rw [List.mem_cons, not_or] at hline
    rw [List.cons_append, takeLines, if_neg (Ne.symm hline.1), ih hline.2, List.append_assoc]
    rfl

theorem takeLines_stream {lines : List (List Char)} (hlines : ∀ line ∈ lines, '\n' ∉ line) :
    takeLines [] (stream lines) = (lines, []) := by
  induction lines with
  | nil => rfl
  | cons line lines ih =>
    have hstream : stream (line :: lines) = line ++ '\n' :: stream lines := by
      simp [stream]
    rw [hstream, takeLines_line (hlines line List.mem_cons_self),
      ih fun line h => hlines line (List.mem_cons_of_mem _ h), List.nil_append]

/-! ## What `drain_protocol` passes on -/

/-- The lines that are passed to `process_protocol_line`, over all reads. -/
def linesPassed (c : ProtocolConfig) : List ProtocolRead → ProtocolLoop → List (List Char)
  | [], _ => []
  | read :: reads, s =>
    (frameRead s.pending read.chunk).2.1 ++
      linesPassed c reads (drainRead c read.chunk read.exceeded read.answers s)

/-- A read raised `native_worker_protocol_buffer_exceeded`. -/
def bufferExceeded (c : ProtocolConfig) : List ProtocolRead → ProtocolLoop → Bool
  | [], _ => false
  | read :: reads, s =>
    (frameRead s.pending read.chunk).1 ||
      bufferExceeded c reads (drainRead c read.chunk read.exceeded read.answers s)

/-- The bytes of the reads. -/
def bytes (reads : List ProtocolRead) : List Char :=
  reads.flatMap ProtocolRead.chunk

/-- At every read, what is unfinished of the bytes before it and the read itself are
together at most 1024 bytes. -/
def Fits (reads : List ProtocolRead) : Prop :=
  ∀ before read after, reads = before ++ read :: after →
    (unfinished (bytes before)).length + read.chunk.length ≤ 1024

/-! ## The pending bytes -/

@[simp] theorem cancel_pending (answers : ProtocolAnswers) (reason : String) (s : ProtocolLoop) :
    (requestProtocolCancel answers reason s).pending = s.pending := by
  unfold requestProtocolCancel
  dsimp only
  split <;> rfl

variable (c : ProtocolConfig)

@[simp] theorem processProtocolLine_pending (answers : ProtocolAnswers) (line : List Char)
    (s : ProtocolLoop) : (processProtocolLine c answers line s).pending = s.pending := by
  unfold processProtocolLine onContextReady onTokenConsumed onHeartbeat onCancelAck
  dsimp only
  repeat' split
  all_goals simp

@[simp] theorem processLines_pending (answers : ℕ → ProtocolAnswers) (lines : List (List Char))
    (s : ProtocolLoop) : (processLines c answers lines s).pending = s.pending := by
  induction lines generalizing answers s with
  | nil => rfl
  | cons line lines ih => rw [processLines, ih, processProtocolLine_pending]

theorem drainRead_pending (read : ProtocolRead) (s : ProtocolLoop) :
    (drainRead c read.chunk read.exceeded read.answers s).pending =
      (frameRead s.pending read.chunk).2.2 :=
  processLines_pending ..

theorem frameRead_within {pending chunk : List Char} (h : pending.length + chunk.length ≤ 1024) :
    frameRead pending chunk = (false, takeLines [] (pending ++ chunk)) := by
  rw [frameRead, if_neg (by rw [List.length_append]; omega)]

theorem frameRead_beyond {pending chunk : List Char} (h : ¬pending.length + chunk.length ≤ 1024) :
    (frameRead pending chunk).1 = true := by
  rw [frameRead, if_pos (by rw [List.length_append]; omega)]

/-! ## Reads -/

section Reads

variable {c : ProtocolConfig}

/-- One read within the bound: the pending bytes are what is unfinished of all bytes so
far. -/
theorem drainRead_unfinished {read : ProtocolRead} {s : ProtocolLoop} {text : List Char}
    (hpending : s.pending = unfinished text)
    (hwithin : (unfinished text).length + read.chunk.length ≤ 1024) :
    (drainRead c read.chunk read.exceeded read.answers s).pending =
      unfinished (text ++ read.chunk) := by
  rw [drainRead_pending, hpending, frameRead_within hwithin, ← takeLines_snd (text ++ read.chunk),
    takeLines_read text]

variable {reads : List ProtocolRead}

theorem bufferExceeded_iff {s : ProtocolLoop} {text : List Char}
    (hpending : s.pending = unfinished text) :
    bufferExceeded c reads s = false ↔ ∀ before read after, reads = before ++ read :: after →
      (unfinished (text ++ bytes before)).length + read.chunk.length ≤ 1024 := by
  induction reads generalizing s text with
  | nil =>
    refine iff_of_true rfl ?_
    intro before read after hnil
    simp at hnil
  | cons read reads ih =>
    rw [bufferExceeded, hpending, Bool.or_eq_false_iff]
    by_cases hwithin : (unfinished text).length + read.chunk.length ≤ 1024
    · rw [frameRead_within hwithin, and_iff_right rfl, ih (drainRead_unfinished hpending hwithin)]
      constructor
      · intro hrest before read' after hsplit
        cases before with
        | nil =>
          cases hsplit
          rw [bytes, List.flatMap_nil, List.append_nil]
          exact hwithin
        | cons first before =>
          cases hsplit
          rw [bytes, List.flatMap_cons, ← List.append_assoc]
          exact hrest before read' after rfl
      · intro hall before read' after hsplit
        have hlater := hall (read :: before) read' after (by rw [hsplit]; rfl)
        rw [bytes, List.flatMap_cons, ← List.append_assoc] at hlater
        exact hlater
    · refine iff_of_false (fun h => ?_) fun hall => hwithin ?_
      · rw [frameRead_beyond hwithin] at h
        cases h.1
      · have hfirst := hall [] read reads rfl
        rw [bytes, List.flatMap_nil, List.append_nil] at hfirst
        exact hfirst

/-- Where no read exceeds the bound, the lines passed on are the lines of the bytes. -/
theorem linesPassed_of_within {s : ProtocolLoop} {text : List Char}
    (hpending : s.pending = unfinished text) (hwithin : bufferExceeded c reads s = false) :
    (takeLines [] text).1 ++ linesPassed c reads s = (takeLines [] (text ++ bytes reads)).1 := by
  induction reads generalizing s text with
  | nil => rw [linesPassed, bytes, List.flatMap_nil, List.append_nil, List.append_nil]
  | cons read reads ih =>
    rw [bufferExceeded, hpending, Bool.or_eq_false_iff] at hwithin
    have hfirst : (unfinished text).length + read.chunk.length ≤ 1024 := by
      by_contra hbeyond
      rw [frameRead_beyond hbeyond] at hwithin
      cases hwithin.1
    have hrest := ih (drainRead_unfinished hpending hfirst) hwithin.2
    rw [takeLines_read] at hrest
    rw [linesPassed, hpending, frameRead_within hfirst, ← List.append_assoc, bytes,
      List.flatMap_cons, ← List.append_assoc text]
    exact hrest

/-- One drain passes exactly the lines on, within its buffer, where its reads fit. -/
theorem framed_iff {lines : List (List Char)} (hlines : ∀ line ∈ lines, '\n' ∉ line)
    (hbytes : bytes reads = stream lines) {s : ProtocolLoop} (hpending : s.pending = []) :
    linesPassed c reads s = lines ∧ bufferExceeded c reads s = false ↔ Fits reads := by
  have hiff := @bufferExceeded_iff c reads s [] hpending
  constructor
  · rintro ⟨-, hwithin⟩
    exact hiff.1 hwithin
  · intro hfits
    have hwithin := hiff.2 hfits
    have hpassed := @linesPassed_of_within c reads s [] hpending hwithin
    rw [List.nil_append, hbytes, takeLines_stream hlines] at hpassed
    exact ⟨hpassed, hwithin⟩

/-- **Framing.** Newline-terminated lines read in two ways: both drains pass exactly the
lines on and neither exceeds its buffer, if and only if every read of both fits. -/
theorem framing_iff {lines : List (List Char)} (hlines : ∀ line ∈ lines, '\n' ∉ line)
    {reads reads' : List ProtocolRead} (hbytes : bytes reads = stream lines)
    (hbytes' : bytes reads' = stream lines) {s s' : ProtocolLoop} (hpending : s.pending = [])
    (hpending' : s'.pending = []) :
    (linesPassed c reads s = lines ∧ bufferExceeded c reads s = false) ∧
      (linesPassed c reads' s' = lines ∧ bufferExceeded c reads' s' = false) ↔
    Fits reads ∧ Fits reads' := by
  rw [framed_iff hlines hbytes hpending, framed_iff hlines hbytes' hpending']

/-- Two reads fit when the first is no longer than the bound and the second fits after
what is unfinished of the first. -/
theorem fits_pair {read read' : ProtocolRead} (hread : read.chunk.length ≤ 1024)
    (hread' : (unfinished read.chunk).length + read'.chunk.length ≤ 1024) : Fits [read, read'] := by
  intro before last after hsplit
  match before with
  | [] =>
    cases hsplit
    exact (Nat.zero_add _).symm ▸ hread
  | [first] =>
    cases hsplit
    rw [bytes, List.flatMap_singleton]
    exact hread'
  | _ :: _ :: before =>
    simp at hsplit

end Reads

namespace Fixture

/-- A heartbeat with 300 blanks at its end, three times: 1074 bytes with the newlines. -/
def heartbeats : List (List Char) :=
  List.replicate 3 ("PRISMINFER/1 HEARTBEAT 0123456789abcdef0123456789abcdef 1".toList ++
    List.replicate 300 ' ')

/-- Two reads, of the given number of bytes and of the rest. -/
def readAt (size : ℕ) : List ProtocolRead :=
  [{ chunk := (stream heartbeats).take size, answers := fun _ => {} },
    { chunk := (stream heartbeats).drop size, answers := fun _ => {} }]

theorem bytes_readAt (size : ℕ) : bytes (readAt size) = stream heartbeats := by
  show (stream heartbeats).take size ++ ((stream heartbeats).drop size ++ []) = _
  rw [List.append_nil, List.take_append_drop]

end Fixture

/-- After a first read of 1024 bytes the rest fits, and all lines arrive; a first read of
100 bytes stops within a line, and the second one is beyond the bound. -/
theorem framing_depends_on_reads :
    let c : ProtocolConfig := { nonce := Fixture.nonce }
    let reads := Fixture.readAt 1024
    let reads' := Fixture.readAt 100
    (∀ line ∈ Fixture.heartbeats, '\n' ∉ line ∧ line.length ≤ 512) ∧
    (∀ read ∈ reads ++ reads', 1 ≤ read.chunk.length ∧ read.chunk.length ≤ 1024) ∧
    bytes reads = stream Fixture.heartbeats ∧ bytes reads' = stream Fixture.heartbeats ∧
    (linesPassed c reads {} = Fixture.heartbeats ∧ bufferExceeded c reads {} = false) ∧
    bufferExceeded c reads' {} = true := by
  intro c reads reads'
  have hlines : ∀ line ∈ Fixture.heartbeats, '\n' ∉ line ∧ line.length ≤ 512 := by decide +kernel
  refine ⟨hlines, by decide +kernel, Fixture.bytes_readAt _, Fixture.bytes_readAt _, ?_, ?_⟩
  · refine (framed_iff (fun line h => (hlines line h).1) (Fixture.bytes_readAt _) rfl).2 ?_
    exact fits_pair (by decide +kernel) (by decide +kernel)
  · rw [← Bool.not_eq_false, @bufferExceeded_iff _ _ {} [] rfl]
    intro hfits
    exact absurd (hfits [_] _ [] rfl) (by decide +kernel)

theorem framing_iff_on_heartbeats :
    let c : ProtocolConfig := { nonce := Fixture.nonce }
    (linesPassed c (Fixture.readAt 1024) {} = Fixture.heartbeats ∧
      linesPassed c (Fixture.readAt 600) {} = Fixture.heartbeats) ∧
    Fits (Fixture.readAt 1024) ∧ Fits (Fixture.readAt 600) := by
  intro c
  have hlines : ∀ line ∈ Fixture.heartbeats, '\n' ∉ line := by decide
  have hfits : Fits (Fixture.readAt 1024) ∧ Fits (Fixture.readAt 600) :=
    ⟨fits_pair (by decide +kernel) (by decide +kernel),
      fits_pair (by decide +kernel) (by decide +kernel)⟩
  have hpassed := (@framing_iff c _ hlines _ _ (Fixture.bytes_readAt 1024)
    (Fixture.bytes_readAt 600) {} {} rfl rfl).2 hfits
  exact ⟨⟨hpassed.1.1, hpassed.2.1⟩, hfits⟩

end PrismInfer.Runtime
