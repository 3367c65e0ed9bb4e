import JobProgress.Session
import JobProgress.Warning.Writer
import Mathlib.Data.List.Induction

/-! An output that runs full takes the first bytes of what it is given, however that is cut into
pieces. Warnings are written line by line, and no line is empty; so what an output is given once
it ran full never passes for a line that fits. -/

namespace JobProgress

/-! ## Bytes of a text -/

theorem byteArrayToList_loop (bytes : ByteArray) (start : Nat) (read : List UInt8) :
    ByteArray.toList.loop bytes start read = read.reverse ++ bytes.data.toList.drop start := by
  fun_induction ByteArray.toList.loop bytes start read with
  | case1 start read inside induction =>
      have within : start < bytes.data.toList.length := inside
      have first : bytes.get! start = bytes.data.toList[start] :=
        getElem!_pos bytes.data start inside
      rw [induction, List.drop_eq_getElem_cons within, first]
      simp
  | case2 start read outside =>
      have none : bytes.data.toList.drop start = [] :=
        List.drop_eq_nil_of_le (Nat.le_of_not_lt outside)
      rw [none, List.append_nil]

theorem toUTF8_toList (text : String) : text.toUTF8.toList = text.toByteArray.data.toList :=
  byteArrayToList_loop text.toByteArray 0 []

theorem toUTF8_toList_append (first second : String) :
    (first ++ second).toUTF8.toList = first.toUTF8.toList ++ second.toUTF8.toList := by
  rw [toUTF8_toList, toUTF8_toList, toUTF8_toList, String.toByteArray_append,
    ByteArray.toList_data_append]

/-! ## Pieces -/

namespace ByteOutput

variable {output : ByteOutput} {limit : Nat} {text piece : List UInt8}

theorem write_append (output : ByteOutput) (first second : List UInt8) :
    output.write (first ++ second) =
      if (output.write first).2 then (output.write first).1.write second
      else ((output.write first).1, false) := by
  rcases output with ⟨limit, bytes, flushes⟩
  cases limit with
  | none => simp [write, accepted]
  | some limit =>
      simp only [write, accepted, List.take_append, List.length_take, List.length_append]
      -- Where the first part is cut off, the second finds no room.
      by_cases fits : first.length ≤ limit - bytes.length
      · have whole : min (limit - bytes.length) first.length = first.length := Nat.min_eq_right fits
        have room : limit - (bytes.length + first.length) = limit - bytes.length - first.length :=
          Nat.sub_add_eq ..
        simp only [List.take_of_length_le fits, whole, room, decide_true, if_true,
          List.append_assoc, Nat.add_left_cancel_iff]
      · have full : limit - bytes.length - first.length = 0 := by omega
        have cut : min (limit - bytes.length) first.length ≠ first.length := by omega
        have short : min (limit - bytes.length) first.length + min 0 second.length ≠
            first.length + second.length := by omega
        simp only [full, List.take_zero, List.append_nil, cut, short, decide_false,
          Bool.false_eq_true, if_false]

theorem writeAll_eq_write (output : ByteOutput) (pieces : List (List UInt8)) :
    output.writeAll pieces = output.write pieces.flatten := by
  induction pieces generalizing output with
  | nil => rcases output with ⟨_ | limit, bytes, flushes⟩ <;> simp [writeAll, write, accepted]
  | cons piece pieces induction =>
      rw [List.flatten_cons, write_append, writeAll]
      split
      · next fitted written =>
          rw [written, induction]
          rfl
      · next cut written =>
          rw [written]
          rfl

/-- An output of `limit` bytes that was given `text`. -/
structure Took (limit : Nat) (text : List UInt8) (output : ByteOutput) : Prop where
  limit_eq : output.limit = some limit
  bytes_eq : output.bytes = text.take limit

theorem ofLimit_took (limit : Nat) : (ofLimit (some limit)).Took limit [] :=
  ⟨rfl, List.take_nil.symm⟩

namespace Took

theorem flush (took : output.Took limit text) : output.flush.Took limit text :=
  ⟨took.limit_eq, took.bytes_eq⟩

theorem accepted (took : output.Took limit text) (piece : List UInt8) :
    output.accepted piece = piece.take (limit - text.length) := by
  have room : limit - min limit text.length = limit - text.length := by omega
  simp only [ByteOutput.accepted, took.limit_eq, took.bytes_eq, List.length_take, room]

theorem write (took : output.Took limit text) (piece : List UInt8) :
    (output.write piece).1.Took limit (text ++ piece) := by
  refine ⟨took.limit_eq, ?_⟩
  rw [List.take_append, ← took.bytes_eq, ← took.accepted]
  rfl

/-- A piece that is not empty fits if all that was given fits with it. Of an output that ran
full before, an empty piece would be taken nevertheless. -/
theorem write_fits (took : output.Took limit text) (some : piece ≠ []) :
    (output.write piece).2 = decide ((text ++ piece).length ≤ limit) := by
  have positive := List.length_pos_iff.mpr some
  rw [ByteOutput.write, took.accepted, List.length_append, List.length_take]
  exact decide_eq_decide.mpr (by omega)

end Took

end ByteOutput

/-! ## Lines -/

structure Warning where
  message : String
  location : SourceLocation
  deriving DecidableEq, Repr

def Warning.line (warning : Warning) : List UInt8 :=
  (warningText warning.message warning.location ++ "\n").toUTF8.toList

theorem Warning.line_ne_nil (warning : Warning) : warning.line ≠ [] := by
  rw [line, toUTF8_toList_append]
  exact List.append_ne_nil_of_right_ne_nil _ (by decide +kernel)

def fittingLines (limit : Nat) (lines : List (List UInt8)) : Nat :=
  (List.range lines.length).countP fun index =>
    (lines.take (index + 1)).flatten.length ≤ limit

theorem fittingLines_concat (limit : Nat) (lines : List (List UInt8)) (line : List UInt8) :
    fittingLines limit (lines ++ [line]) =
      fittingLines limit lines + if (lines.flatten ++ line).length ≤ limit then 1 else 0 := by
  have earlier : (List.range lines.length).countP
        (fun index => ((lines ++ [line]).take (index + 1)).flatten.length ≤ limit) =
      fittingLines limit lines := by
    apply List.countP_congr
    intro index member
    have within : index + 1 ≤ lines.length := List.mem_range.mp member
    rw [List.take_append_of_le_length within]
  have all : (lines ++ [line]).take (lines.length + 1) = lines ++ [line] :=
    List.take_of_length_le (Nat.le_of_eq (List.length_append ..))
  have text : (lines ++ [line]).flatten = lines.flatten ++ line := by simp
  rw [fittingLines, List.length_append, List.length_singleton, List.range_succ,
    List.countP_append, earlier, List.countP_singleton, all, text]
  simp only [decide_eq_true_eq]

namespace WrittenWarnings

theorem flatten_linePieces (warning : Warning) :
    (linePieces warning.message warning.location).flatten = warning.line := by
  simp only [linePieces, Warning.line, warningText, toUTF8_toList_append, List.map_cons,
    List.map_nil, List.flatten_cons, List.flatten_nil, List.append_nil, List.append_assoc]

theorem warn_eq (sink : WrittenWarnings) (warning : Warning) :
    sink.warn warning.message warning.location =
      let written := sink.output.write warning.line
      ⟨if written.2 then written.1.flush else written.1⟩ := by
  rw [warn, ByteOutput.writeAll_eq_write, flatten_linePieces]
  split <;> next written => rw [written]; rfl

def warnAll (sink : WrittenWarnings) (warnings : List Warning) : WrittenWarnings :=
  warnings.foldl (fun sink told => (WarningSink.warn sink told.message told.location).1) sink

/-- A sink of `limit` bytes that was given lines: flushed once for each that fits. -/
structure Wrote (limit : Nat) (lines : List (List UInt8)) (sink : WrittenWarnings) : Prop where
  took : sink.output.Took limit lines.flatten
  flushes_eq : sink.output.flushes = fittingLines limit lines

theorem Wrote.warn {limit : Nat} {lines : List (List UInt8)} {sink : WrittenWarnings}
    (wrote : sink.Wrote limit lines) (warning : Warning) :
    (sink.warn warning.message warning.location).Wrote limit (lines ++ [warning.line]) := by
  have text : (lines ++ [warning.line]).flatten = lines.flatten ++ warning.line := by simp
  have taken := wrote.took.write warning.line
  have fits := wrote.took.write_fits warning.line_ne_nil
  have flushed : (sink.output.write warning.line).1.flushes = sink.output.flushes := rfl
  rw [warn_eq]
  dsimp only
  rw [fits]
  by_cases all : (lines.flatten ++ warning.line).length ≤ limit
  · rw [decide_eq_true all, if_pos rfl]
    constructor
    · exact text ▸ taken.flush
    · rw [fittingLines_concat, if_pos all, ← wrote.flushes_eq]
      rfl
  · rw [decide_eq_false all, if_neg Bool.false_ne_true]
    constructor
    · exact text ▸ taken
    · rw [fittingLines_concat, if_neg all, ← wrote.flushes_eq]
      rfl

theorem warnAll_concat (sink : WrittenWarnings) (warnings : List Warning) (warning : Warning) :
    sink.warnAll (warnings ++ [warning]) =
      (sink.warnAll warnings).warn warning.message warning.location := by
  rw [warnAll, List.foldl_append]
  rfl

theorem warnAll_wrote (limit : Nat) (warnings : List Warning) :
    (warnAll ⟨.ofLimit (some limit)⟩ warnings).Wrote limit (warnings.map (·.line)) := by
  induction warnings using List.reverseRecOn with
  | nil => exact ⟨ByteOutput.ofLimit_took limit, rfl⟩
  | append_singleton warnings warning induction =>
      rw [warnAll_concat, List.map_append]
      exact induction.warn warning

variable {σ α : Type} [ProgressSink σ] [Amount α]

/-- Warnings that go to an output of `limit` bytes leave there the first bytes of their lines, as
many as fit. The output is flushed once for each line that fits in full and not for any other,
so it is after every warning. Whatever became of the lines before, a warning returns, and
nothing but the output takes notice of it. -/
theorem lines_cut_at_limit (limit : Nat) (warnings : List Warning) :
    let sink := warnAll ⟨.ofLimit (some limit)⟩ warnings
    let text := (warnings.map (·.line)).flatten
    sink.output.bytes = text.take (min limit text.length) ∧
      (∀ count, (warnAll ⟨.ofLimit (some limit)⟩ (warnings.take count)).output.flushes =
        fittingLines limit ((warnings.take count).map (·.line))) ∧
      ∀ (monitor : Monitor α) (shown : σ) (clock : Clock) (next : Warning),
        Session.run ⟨monitor, shown, sink, clock⟩ (.warn next.message next.location) =
          .line (.ok .nothing)
            ⟨[], ⟨monitor, shown, sink.warn next.message next.location, clock⟩⟩ := by
  intro sink text
  have wrote : sink.Wrote limit (warnings.map (·.line)) := warnAll_wrote limit warnings
  refine ⟨?_, fun count => (warnAll_wrote limit (warnings.take count)).flushes_eq, ?_⟩
  · rw [wrote.took.bytes_eq, List.take_eq_take_min]
  · intro monitor shown clock next
    rfl

example :
    let place : SourceLocation := .ofUri ⟨"a:b"⟩
    let sink := warnAll ⟨.ofLimit (some 18)⟩ [⟨"é", place⟩, ⟨"é", place⟩, ⟨"", place⟩]
    sink.output.text = "|a:b|: é\n|a:b|: \uFFFD" ∧ sink.output.flushes = 1 := by
  decide +kernel

end WrittenWarnings

end JobProgress
