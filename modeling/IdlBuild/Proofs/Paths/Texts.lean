import IdlBuild.Proofs.Paths.Components
import IdlBuild.Proofs.Texts.Utf8

/-!
# Paths of texts

The path of a text is shown as the text (`Path.text_ofText`). A text is the UTF-8 of a plain name
when it is neither empty nor dots and holds no slash (`Path.isPlain_encode_iff`), since the byte of
a slash stands in no other character.
-/

namespace IdlBuild.Path

open Text (encode)

/-- A path that was written for a text is shown as that text. -/
@[simp] theorem text_ofText (s : String) : (ofText s).text = s := Text.decodeLossy_encode s

theorem slash_mem_encode {s : String} : slash ∈ encode s ↔ '/' ∈ s.toList :=
  Text.mem_encode_iff (by decide)

theorem dot_mem_encode {s : String} : dot ∈ encode s ↔ '.' ∈ s.toList :=
  Text.mem_encode_iff (by decide)

theorem isPlain_encode_iff {s : String} :
    IsPlain (encode s) ↔ s ≠ "" ∧ s ≠ "." ∧ s ≠ ".." ∧ '/' ∉ s.toList := by
  have hdot : encode "." = [dot] := rfl
  have hup : encode ".." = [dot, dot] := rfl
  rw [IsPlain, slash_mem_encode, ← hup, ← hdot, ne_eq, Text.encode_eq_nil_iff,
    Text.encode_injective.ne_iff, Text.encode_injective.ne_iff]

/-- No slash is shown in a plain name. -/
theorem not_mem_decodeLossy {name : FileName} (h : slash ∉ name) :
    '/' ∉ (Text.decodeLossy name).toList := by
  intro hmem
  obtain ⟨before, after, hname⟩ := Text.bytes_of_mem_decodeLossy (by decide) hmem
  refine h (hname ▸ ?_)
  have hbytes : String.utf8EncodeChar '/' = [slash] := rfl
  simp [hbytes]

end IdlBuild.Path
