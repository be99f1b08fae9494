import IdlBuild.Journal
import IdlBuild.SystemFault
import IdlBuild.Text.Fields
import IdlBuild.Text.Utf8

/-!
# Forwarding lines

A stream of bytes is forwarded to a journal line by line. It arrives in chunks that may end
anywhere; bytes that end no line yet are kept until a line feed, or the end of the stream, completes
them. A read that is interrupted is made again. A read that fails ends the forwarding with one line
of severity error, and the bytes that were kept are lost with it.
-/

namespace IdlBuild.Child.Lines

open Text (Bytes)

/-! ### Lines of bytes -/

/-- The line feed that ends a line. -/
def lineFeed : UInt8 := 10

/-- The carriage return that may stand before it. -/
def carriageReturn : UInt8 := 13

/-- The bytes of a line without a carriage return at the end. -/
def trimReturn (line : Bytes) : Bytes :=
  if line.getLast? = some carriageReturn then line.dropLast else line

/-- A line as it is reported. -/
def lineText (line : Bytes) : String := Text.decodeLossy (trimReturn line)

/-- The lines that some bytes complete, and the bytes after the last of them. -/
def completeLines (bytes : Bytes) : List Bytes × Bytes :=
  let pieces := Text.fields lineFeed bytes
  (pieces.dropLast, pieces.getLast?.getD [])

/-- The line that the kept bytes make at the end of the stream, if there are any. -/
def lastLine (kept : Bytes) : List Bytes := if kept = [] then [] else [kept]

/-- The lines of a whole stream of bytes: cut at every line feed, a final empty piece left out. -/
def ofBytes (bytes : Bytes) : List String :=
  let (complete, kept) := completeLines bytes
  (complete ++ lastLine kept).map lineText

theorem fields_eq (bytes : Bytes) :
    Text.fields lineFeed bytes = (completeLines bytes).1 ++ [(completeLines bytes).2] := by
  have hne := Text.fields_ne_nil lineFeed bytes
  rw [completeLines, List.getLast?_eq_some_getLast hne, Option.getD_some]
  exact (List.dropLast_concat_getLast hne).symm

theorem completeLines_of_fields {bytes : Bytes} {lines : List Bytes} {kept : Bytes}
    (h : Text.fields lineFeed bytes = lines ++ [kept]) : completeLines bytes = (lines, kept) := by
  simp [completeLines, h]

/-- What was kept of the first bytes begins the first line of the others. -/
theorem completeLines_append (first others : Bytes) :
    completeLines (first ++ others) =
      ((completeLines first).1 ++ (completeLines ((completeLines first).2 ++ others)).1,
        (completeLines ((completeLines first).2 ++ others)).2) := by
  apply completeLines_of_fields
  rw [List.append_assoc, ← fields_eq, Text.fields_append_last]
  rfl

theorem not_mem_kept (bytes : Bytes) : lineFeed ∉ (completeLines bytes).2 := by
  have hlast : (completeLines bytes).2 ∈ Text.fields lineFeed bytes := by simp [fields_eq]
  exact Text.not_mem_of_mem_fields hlast

theorem completeLines_of_not_mem {bytes : Bytes} (h : lineFeed ∉ bytes) :
    completeLines bytes = ([], bytes) :=
  completeLines_of_fields (Text.fields_of_not_mem h)

/-- Every line that is cut off has a line feed of its own. -/
theorem length_completeLines_le (bytes : Bytes) :
    (completeLines bytes).1.length + (completeLines bytes).2.length ≤ bytes.length := by
  have hlength := Text.length_flatten_fields lineFeed bytes
  simp only [fields_eq, List.flatten_append, List.flatten_cons, List.flatten_nil,
    List.append_nil, List.length_append, List.length_cons, List.length_nil] at hlength
  omega

theorem ofBytes_append (first others : Bytes) :
    ofBytes (first ++ others) =
      (completeLines first).1.map lineText ++ ofBytes ((completeLines first).2 ++ others) := by
  simp only [ofBytes, completeLines_append first others, List.append_assoc, List.map_append]

theorem ofBytes_of_not_mem {bytes : Bytes} (h : lineFeed ∉ bytes) :
    ofBytes bytes = (lastLine bytes).map lineText := by
  simp only [ofBytes, completeLines_of_not_mem h, List.nil_append]

/-! ### Forwarding -/

/-- What one read from a stream brings; no bytes at all are the end of the stream. -/
inductive Arrival where
  | chunk (bytes : Bytes)
  | failed (fault : IoFault)
deriving DecidableEq, Repr

/-- How a failed read is reported. -/
def failureLine (fault : IoFault) : Line :=
  ⟨.error, s!"error reading process output: {fault.message}"⟩

/-- The lines that are reported from the rest of the arrivals on. -/
def forwardFrom (severity : Severity) : (kept : Bytes) → List Arrival → List Line
  | kept, [] => (lastLine kept).map fun line => ⟨severity, lineText line⟩
  | kept, .chunk bytes :: rest =>
    if bytes = [] then
      if kept = [] then [] else ⟨severity, lineText kept⟩ :: forwardFrom severity [] rest
    else
      let (lines, kept) := completeLines (kept ++ bytes)
      lines.map (fun line => ⟨severity, lineText line⟩) ++ forwardFrom severity kept rest
  | kept, .failed fault :: rest =>
    if fault.isInterruption then forwardFrom severity kept rest else [failureLine fault]

/-- The lines that a stream is reported as. -/
def forward (severity : Severity) (arrivals : List Arrival) : List Line :=
  forwardFrom severity [] arrivals

/-- The name of the worker that forwards a stream. -/
def workerName (stream : String) : String := "drain-" ++ stream

end IdlBuild.Child.Lines
