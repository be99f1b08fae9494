import IdlBuild.Child.Lines
import IdlBuild.Proofs.Texts.Utf8

/-!
# Lines do not depend on chunks

What is forwarded of a stream is what its text says, wherever the reads cut it: between two lines,
inside of one, before the line feed of a line end, or inside of a character (`forward_unchunked`).
Bytes are cut into lines before they are decoded, and the text would be cut after it; both give the
same, for a line feed is a byte of its own in whatever stands around it (`pieces_decodeLossy`).
-/

namespace IdlBuild.Child.Lines

open Text (Bytes decodeLossy fields)

/-! ### Lines of a text -/

/-- The pieces of a text between its line feeds. -/
def pieces (text : String) : List (List Char) := fields '\n' text.toList

/-- A piece without one carriage return at its end. -/
def withoutReturn (piece : List Char) : List Char :=
  if piece.getLast? = some '\r' then piece.dropLast else piece

/-- The pieces without an empty one at the end. -/
def withoutEmptyEnd (pieces : List (List Char)) : List (List Char) :=
  if pieces.getLast? = some [] then pieces.dropLast else pieces

/-- The lines of a text. -/
def ofText (text : String) : List String :=
  (withoutEmptyEnd (pieces text)).map fun piece => String.ofList (withoutReturn piece)

/-- The lines of a text that a line feed ends. -/
def endedOfText (text : String) : List String :=
  (pieces text).dropLast.map fun piece => String.ofList (withoutReturn piece)

/-! ### Cutting before and after decoding -/

theorem newline_not_mem_decodeLossy {bytes : Bytes} (h : lineFeed ∉ bytes) :
    '\n' ∉ (decodeLossy bytes).toList := by
  intro hmem
  have hbytes := Text.bytes_of_mem_decodeLossy (by decide) hmem
  exact h (hbytes.subset (List.mem_singleton_self _))

theorem fields_decodeLossy_intercalated {lines : List Bytes} (hne : lines ≠ [])
    (h : ∀ line ∈ lines, lineFeed ∉ line) :
    fields '\n' (decodeLossy (Text.intercalated lineFeed lines)).toList =
      lines.map fun line => (decodeLossy line).toList := by
  induction lines with
  | nil => exact absurd rfl hne
  | cons line lines ih =>
    have hline := newline_not_mem_decodeLossy (h line (List.mem_cons_self ..))
    cases lines with
    | nil => exact Text.fields_of_not_mem hline
    | cons next rest =>
      have hrest := ih (by simp) fun l hl => h l (List.mem_cons_of_mem _ hl)
      have hcut := Text.decodeLossy_cut (b := lineFeed) (by decide) line
        (Text.intercalated lineFeed (next :: rest))
      have hnewline : Char.ofNat lineFeed.toNat = '\n' := rfl
      rw [Text.intercalated, hcut, hnewline, Text.fields_append, hrest,
        Text.fields_of_not_mem hline]
      rfl

/-- The pieces of what was read are the pieces of the bytes, each of them read. -/
theorem pieces_decodeLossy (bytes : Bytes) :
    pieces (decodeLossy bytes) =
      (fields lineFeed bytes).map fun line => (decodeLossy line).toList := by
  have hall := fields_decodeLossy_intercalated (Text.fields_ne_nil lineFeed bytes)
    fun line hline => Text.not_mem_of_mem_fields hline
  rwa [Text.intercalated_fields] at hall

theorem withoutReturn_decodeLossy (line : Bytes) :
    String.ofList (withoutReturn (decodeLossy line).toList) = lineText line := by
  by_cases hreturn : line.getLast? = some carriageReturn
  · obtain ⟨front, rfl⟩ := List.getLast?_eq_some_iff.1 hreturn
    have hcut := Text.decodeLossy_cut (b := carriageReturn) (by decide) front []
    have hlast : (decodeLossy (front ++ [carriageReturn])).toList
        = (decodeLossy front).toList ++ ['\r'] := hcut
    rw [lineText, trimReturn, if_pos hreturn, List.dropLast_concat, withoutReturn, hlast,
      List.getLast?_concat, if_pos rfl, List.dropLast_concat, String.ofList_toList]
  · have hnone : (decodeLossy line).toList.getLast? ≠ some '\r' := by
      intro hlast
      obtain ⟨front, hfront⟩ := Text.bytes_of_getLast_decodeLossy (by decide) hlast
      have hbyte : String.utf8EncodeChar '\r' = [carriageReturn] := rfl
      rw [hbyte] at hfront
      rw [← hfront, List.getLast?_concat] at hreturn
      exact hreturn rfl
    rw [lineText, trimReturn, if_neg hreturn, withoutReturn, if_neg hnone, String.ofList_toList]

theorem decodeLossy_eq_nil_iff (bytes : Bytes) : (decodeLossy bytes).toList = [] ↔ bytes = [] := by
  constructor
  · intro h
    rw [decodeLossy, String.toList_ofList, List.map_eq_nil_iff] at h
    rw [← Text.bytes_parts bytes, h, List.flatMap_nil]
  · rintro rfl
    rfl

theorem endedOfText_decodeLossy (bytes : Bytes) :
    endedOfText (decodeLossy bytes) = (completeLines bytes).1.map lineText := by
  rw [endedOfText, pieces_decodeLossy, fields_eq, List.map_append, List.map_singleton,
    List.dropLast_concat, List.map_map]
  exact List.map_congr_left fun line _ => withoutReturn_decodeLossy line

/-- The lines of a stream are the lines of its text. -/
theorem ofText_decodeLossy (bytes : Bytes) : ofText (decodeLossy bytes) = ofBytes bytes := by
  have hpieces : withoutEmptyEnd (pieces (decodeLossy bytes)) =
      ((completeLines bytes).1 ++ lastLine (completeLines bytes).2).map
        fun line => (decodeLossy line).toList := by
    rw [withoutEmptyEnd, pieces_decodeLossy, fields_eq, List.map_append, List.map_singleton,
      List.getLast?_concat, List.dropLast_concat, lastLine]
    by_cases hkept : (completeLines bytes).2 = []
    · rw [if_pos hkept, if_pos (by rw [hkept]; rfl), List.append_nil]
    · have hlast : some (decodeLossy (completeLines bytes).2).toList ≠ some [] := by
        rw [Ne, Option.some_inj, decodeLossy_eq_nil_iff]
        exact hkept
      rw [if_neg hkept, if_neg hlast, List.map_append, List.map_singleton]
  rw [ofText, hpieces, List.map_map, ofBytes]
  exact List.map_congr_left fun line _ => withoutReturn_decodeLossy line

/-! ### Reads -/

/-- Whether a read is neither the end of the stream nor its failure: it brings bytes or is to be
made again. -/
def Arrival.GoesOn : Arrival → Prop
  | .chunk bytes => bytes ≠ []
  | .failed fault => fault.isInterruption = true

instance (arrival : Arrival) : Decidable arrival.GoesOn :=
  match arrival with
  | .chunk bytes => inferInstanceAs (Decidable (bytes ≠ []))
  | .failed fault => inferInstanceAs (Decidable (fault.isInterruption = true))

/-- The bytes that reads bring. -/
def delivered : List Arrival → Bytes
  | [] => []
  | .chunk bytes :: rest => bytes ++ delivered rest
  | .failed _ :: rest => delivered rest

/-- Reads that go on report the lines that they complete, and keep the bytes after them. -/
theorem forwardFrom_append (severity : Severity) {kept : Bytes} (hkept : lineFeed ∉ kept)
    {reads : List Arrival} (h : ∀ read ∈ reads, read.GoesOn) (rest : List Arrival) :
    forwardFrom severity kept (reads ++ rest) =
      (completeLines (kept ++ delivered reads)).1.map (fun line => ⟨severity, lineText line⟩) ++
        forwardFrom severity (completeLines (kept ++ delivered reads)).2 rest := by
  induction reads generalizing kept with
  | nil =>
    rw [delivered, List.append_nil, completeLines_of_not_mem hkept]
    rfl
  | cons read reads ih =>
    have hread := h read (List.mem_cons_self ..)
    have hreads : ∀ r ∈ reads, r.GoesOn := fun r hr => h r (List.mem_cons_of_mem _ hr)
    cases read with
    | chunk bytes =>
      have hbytes : bytes ≠ [] := hread
      have hnext := ih (not_mem_kept (kept ++ bytes)) hreads
      rw [List.cons_append, forwardFrom, if_neg hbytes, delivered, ← List.append_assoc,
        completeLines_append (kept ++ bytes) (delivered reads), List.map_append, List.append_assoc]
      exact congrArg _ hnext
    | failed fault =>
      have hfault : fault.isInterruption = true := hread
      rw [List.cons_append, forwardFrom, if_pos hfault, delivered]
      exact ih hkept hreads

/-- At the end of the stream the bytes that were kept are the last line, however often the end is
read. -/
theorem forwardFrom_ends (severity : Severity) (kept : Bytes) (ends : Nat) :
    forwardFrom severity kept (List.replicate ends (.chunk [])) =
      (lastLine kept).map fun line => ⟨severity, lineText line⟩ := by
  cases ends with
  | zero => rfl
  | succ ends =>
    rw [List.replicate_succ, forwardFrom, if_pos rfl, lastLine]
    by_cases hkept : kept = []
    · rw [if_pos hkept, if_pos hkept]
      rfl
    · rw [if_neg hkept, if_neg hkept]
      cases ends <;> rfl

/-- Reads report the lines of the text that they bring, wherever they cut it. A read that fails ends
the report: only the lines that were ended before it have been reported, and nothing that comes
later is. -/
theorem forward_unchunked (severity : Severity) (reads : List Arrival)
    (h : ∀ read ∈ reads, read.GoesOn) :
    (∀ ends, forward severity (reads ++ List.replicate ends (.chunk [])) =
      (ofText (decodeLossy (delivered reads))).map fun line => ⟨severity, line⟩) ∧
    ∀ fault later, fault.isInterruption = false →
      forward severity (reads ++ .failed fault :: later) =
        (endedOfText (decodeLossy (delivered reads))).map (fun line => ⟨severity, line⟩) ++
          [failureLine fault] := by
  have happend := forwardFrom_append severity List.not_mem_nil h
  refine ⟨fun ends => ?_, fun fault later hfault => ?_⟩
  · rw [forward, happend, forwardFrom_ends, ofText_decodeLossy, ofBytes, ← List.map_append,
      List.map_map]
    rfl
  · rw [forward, happend, forwardFrom, if_neg (by simp [hfault]), endedOfText_decodeLossy,
      List.map_map]
    rfl

/-- Reads that cut a character in two, are interrupted, and cut a line end in two. -/
def cutReads : List Arrival :=
  [.chunk [0x63, 0xC3], .failed IoFault.interrupted, .chunk [0xA9, 0x0D], .chunk [0x0A, 0xFF]]

theorem cutReads_unchunked :
    (∀ read ∈ cutReads, read.GoesOn) ∧
      forward .info cutReads = [⟨.info, "cé"⟩, ⟨.info, "\uFFFD"⟩] ∧
      forward .info (cutReads ++ [.failed (.system 5), .chunk [0x0A]]) =
        [⟨.info, "cé"⟩, failureLine (.system 5)] := by
  have hreads : ∀ read ∈ cutReads, read.GoesOn := by decide
  obtain ⟨hends, hfails⟩ := forward_unchunked .info cutReads hreads
  refine ⟨hreads, ?_, ?_⟩
  · exact (hends 0).trans (by decide +kernel)
  · exact (hfails (.system 5) [.chunk [0x0A]] (by decide)).trans (by decide +kernel)

end IdlBuild.Child.Lines
