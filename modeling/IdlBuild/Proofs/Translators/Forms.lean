import IdlBuild.Proofs.Texts.Decimals
import IdlBuild.Proofs.Texts.Utf8
import IdlBuild.Proofs.Translators.Redirects
import IdlBuild.Proofs.Translators.Runs

/-!
# Forms that read back

Whatever named values a form is made of, reading it gives them back in order (`decode_encode`): no
byte of a name or a value is left that could be taken for a separator. The form that carries a
bundle has two values for each of its files under names that occur once, so that files whose content
is text are told from it as they are (`posted_readsBack`).
-/

namespace IdlBuild.Http

open Text (Bytes)

/-! ### Percent-encoding -/

theorem hexDigitValue_hexChar {n : Nat} (h : n < 16) :
    hexDigitValue? (asciiByte (hexChar n)) = some n := by
  have hall : ∀ n, n < 16 → hexDigitValue? (asciiByte (hexChar n)) = some n := by decide
  exact hall n h

theorem percentDecode_percentEncoded (b : UInt8) (rest : Bytes) :
    percentDecode ((percentEncoded b).map asciiByte ++ rest) = b :: percentDecode rest := by
  have hlt := b.toNat_lt
  have hhigh := hexDigitValue_hexChar (n := b.toNat / 16) (by omega)
  have hlow := hexDigitValue_hexChar (n := b.toNat % 16) (by omega)
  have hvalue : b.toNat / 16 * 16 + b.toNat % 16 = b.toNat := by omega
  have hpercent : asciiByte '%' = 0x25 := rfl
  rw [percentEncoded, List.map_cons, List.map_cons, List.map_singleton, hpercent, List.cons_append,
    List.cons_append, List.singleton_append, percentDecode, hhigh, hlow]
  dsimp only
  rw [hvalue, UInt8.ofNat_toNat]

theorem percentDecode_cons_of_ne {b : UInt8} (h : b ≠ 0x25) (rest : Bytes) :
    percentDecode (b :: rest) = b :: percentDecode rest := by
  rw [percentDecode]
  rintro c d others rfl
  exact absurd rfl h

namespace Form

/-! ### One name or value -/

/-- The byte that a plus sign stands for, and every other byte as it is. -/
def plusAsSpace (b : UInt8) : UInt8 := if b = 0x2B then 0x20 else b

theorem ne_of_isKept {b c : UInt8} (hb : isKept b = true) (hc : isKept c = false) : b ≠ c := by
  rintro rfl
  rw [hb] at hc
  cases hc

theorem isKept_hexChar {n : Nat} (h : n < 16) : isKept (asciiByte (hexChar n)) = true := by
  have hall : ∀ n, n < 16 → isKept (asciiByte (hexChar n)) = true := by decide
  exact hall n h

/-- What an encoded byte is made of. -/
theorem isKept_of_mem_encodeByte {b c : UInt8} (h : c ∈ encodeByte b) :
    isKept c = true ∨ c = 0x2B ∨ c = 0x25 := by
  have hlt := b.toNat_lt
  unfold encodeByte at h
  split_ifs at h with hkept hspace
  · rw [List.mem_singleton] at h
    exact .inl (h ▸ hkept)
  · exact .inr (.inl (List.mem_singleton.1 h))
  · have hhigh := isKept_hexChar (n := b.toNat / 16) (by omega)
    have hlow := isKept_hexChar (n := b.toNat % 16) (by omega)
    simp only [percentEncoded, List.map_cons, List.map_nil, List.mem_cons, List.not_mem_nil,
      or_false] at h
    rcases h with rfl | rfl | rfl
    · exact .inr (.inr rfl)
    · exact .inl hhigh
    · exact .inl hlow

/-- No encoded name or value holds a byte that is written for another purpose. -/
theorem not_mem_encodeText {c : UInt8} (hkept : isKept c = false) (hplus : c ≠ 0x2B)
    (hpercent : c ≠ 0x25) (s : String) : c ∉ encodeText s := by
  intro h
  obtain ⟨b, hb, hc⟩ := List.mem_flatMap.1 h
  rcases isKept_of_mem_encodeByte hc with h | h | h
  · exact ne_of_isKept h hkept rfl
  · exact hplus h
  · exact hpercent h

theorem map_plusAsSpace_percentEncoded (b : UInt8) :
    ((percentEncoded b).map asciiByte).map plusAsSpace = (percentEncoded b).map asciiByte := by
  have hlt := b.toNat_lt
  have hdigit : ∀ n, n < 16 → plusAsSpace (asciiByte (hexChar n)) = asciiByte (hexChar n) := by
    intro n hn
    have hne := ne_of_isKept (c := 0x2B) (isKept_hexChar hn) rfl
    rw [plusAsSpace, if_neg hne]
  have hpercent : plusAsSpace (asciiByte '%') = asciiByte '%' := rfl
  simp only [percentEncoded, List.map_cons, List.map_nil, hpercent,
    hdigit (b.toNat / 16) (by omega), hdigit (b.toNat % 16) (by omega)]

/-- A byte is read from its code. -/
theorem percentDecode_encodeByte (b : UInt8) (rest : Bytes) :
    percentDecode ((encodeByte b).map plusAsSpace ++ rest) = b :: percentDecode rest := by
  unfold encodeByte
  split_ifs with hkept hspace
  · have hplus := ne_of_isKept (c := 0x2B) hkept rfl
    have hpercent := ne_of_isKept (c := 0x25) hkept rfl
    rw [List.map_singleton, plusAsSpace, if_neg hplus, List.singleton_append,
      percentDecode_cons_of_ne hpercent]
  · rw [hspace]
    exact percentDecode_cons_of_ne (by decide) rest
  · rw [map_plusAsSpace_percentEncoded, percentDecode_percentEncoded]

theorem percentDecode_encoded (bytes : Bytes) :
    percentDecode ((bytes.flatMap encodeByte).map plusAsSpace) = bytes := by
  induction bytes with
  | nil => rfl
  | cons b bytes ih =>
    rw [List.flatMap_cons, List.map_append, percentDecode_encodeByte, ih]

theorem decodeText_encodeText (s : String) : decodeText (encodeText s) = s := by
  have hbytes : percentDecode ((encodeText s).map plusAsSpace) = Text.encode s :=
    percentDecode_encoded (Text.encode s)
  exact (congrArg Text.decodeLossy hbytes).trans (Text.decodeLossy_encode s)

/-! ### Whole forms -/

theorem decodeField_encodeField (f : Field) : decodeField (encodeField f) = f := by
  have hname : 0x3D ∉ encodeText f.1 := not_mem_encodeText rfl (by decide) (by decide) f.1
  rw [decodeField, encodeField, Text.cutFirst_append hname]
  dsimp only
  rw [decodeText_encodeText, decodeText_encodeText]

theorem not_mem_encodeField (f : Field) : 0x26 ∉ encodeField f := by
  have hname : 0x26 ∉ encodeText f.1 := not_mem_encodeText rfl (by decide) (by decide) f.1
  have hvalue : 0x26 ∉ encodeText f.2 := not_mem_encodeText rfl (by decide) (by decide) f.2
  simp [encodeField, hname, hvalue]

/-- Named values are read from their form. -/
theorem decode_encode (fields : List Field) : decode (encode fields) = fields := by
  by_cases hnone : fields = []
  · rw [hnone]
    rfl
  · have hpieces : Text.fields 0x26 (encode fields) = fields.map encodeField := by
      refine Text.fields_intercalated (by simpa using hnone) fun piece hpiece => ?_
      obtain ⟨f, -, rfl⟩ := List.mem_map.1 hpiece
      exact not_mem_encodeField f
    have hfull : (fields.map encodeField).filter (· ≠ []) = fields.map encodeField := by
      refine List.filter_eq_self.2 fun piece hpiece => ?_
      obtain ⟨f, -, rfl⟩ := List.mem_map.1 hpiece
      simp [encodeField]
    have hread : decodeField ∘ encodeField = id := funext decodeField_encodeField
    rw [decode, hpieces, hfull, List.map_map, hread, List.map_id]

end Form

/-! ### What is sent -/

variable {σ : Type}

/-- A network that keeps the requests that it is sent. -/
def keeping (network : Network σ) : Network (σ × List Request) := fun request limit state =>
  ((network request limit state.1).1, (network request limit state.1).2, state.2 ++ [request])

/-- Whether a request repeats another one or asks for a page without sending anything. -/
def Request.Repeats (request other : Request) : Prop :=
  other = { request with url := other.url } ∨ other = ⟨.get, other.url, none, none⟩

theorem Request.Repeats.trans {request other last : Request} (h : request.Repeats other)
    (h' : other.Repeats last) : request.Repeats last := by
  rcases h' with h' | h'
  · rcases h with h | h
    · rw [h] at h'
      exact .inl h'
    · rw [h] at h'
      exact .inr h'
  · exact .inr h'

/-- What is sent after a request repeats it or sends nothing. -/
theorem send_keeping (network : Network σ) (limit : Option Nat) (redirects : Nat)
    (request : Request) (state : σ × List Request) :
    ∃ others, (send (keeping network) limit redirects request state).2.2
        = state.2 ++ request :: others ∧ ∀ other ∈ others, request.Repeats other := by
  fun_induction send (keeping network) limit redirects request state with
  | case1 redirects request state causes after hanswer =>
    obtain ⟨-, rfl⟩ := Prod.mk.inj hanswer
    exact ⟨[], rfl, by simp⟩
  | case2 redirects request state response after hanswer =>
    obtain ⟨-, rfl⟩ := Prod.mk.inj hanswer
    exact ⟨[], rfl, by simp⟩
  | case3 request state response after hanswer =>
    obtain ⟨-, rfl⟩ := Prod.mk.inj hanswer
    exact ⟨[], rfl, by simp⟩
  | case4 request state response after hanswer next hnext redirects hweb ih =>
    obtain ⟨-, rfl⟩ := Prod.mk.inj hanswer
    obtain ⟨others, hasked, hothers⟩ := ih
    have hrepeats : request.Repeats next := by
      have hsame := (redirected_eq_some hnext).2
      split_ifs at hsame with hkeeps
      · exact .inl hsame
      · exact .inr hsame
    refine ⟨next :: others, hasked.trans (List.append_assoc ..), fun other hother => ?_⟩
    rcases List.mem_cons.1 hother with rfl | hother
    · exact hrepeats
    · exact hrepeats.trans (hothers other hother)
  | case5 request state response after hanswer next hnext redirects hweb =>
    obtain ⟨-, rfl⟩ := Prod.mk.inj hanswer
    exact ⟨[], rfl, by simp⟩

/-- Everything that is posted with named values carries their form. -/
theorem post_keeping (network : Network σ) (limit : Option Nat) (address : String)
    (fields : List Form.Field) (state : σ × List Request) :
    ∃ asked, (post (keeping network) limit address fields state).2.2 = state.2 ++ asked ∧
      (∀ request ∈ asked, request.method = .post →
        request.contentType = some Form.contentType ∧
          request.body = some (Form.encode fields)) ∧
      ∀ url, requestable address = .ok url → asked.head? = some (.postForm url fields) := by
  unfold post
  cases haddress : requestable address with
  | error fault => exact ⟨[], (List.append_nil _).symm, by simp, by simp⟩
  | ok url =>
    obtain ⟨others, hasked, hothers⟩ :=
      send_keeping network limit redirectLimit (.postForm url fields) state
    refine ⟨_, hasked, fun request hrequest hmethod => ?_, ?_⟩
    · rcases List.mem_cons.1 hrequest with rfl | hrequest
      · exact ⟨rfl, rfl⟩
      · rcases hothers request hrequest with h | h
        · rw [h]
          exact ⟨rfl, rfl⟩
        · rw [h] at hmethod
          cases hmethod
    · rintro other ⟨⟩
      rfl

end IdlBuild.Http

namespace IdlBuild

open Text (Bytes)
open Http.Form (Field)

namespace Service

/-! ### The form of a bundle -/

theorem eq_of_filename {i j : Nat} (h : s!"idl.{i}.filename" = s!"idl.{j}.filename") : i = j :=
  Text.toString_injective
    ((String.append_right_inj "idl.").1 ((String.append_left_inj ".filename").1 h))

theorem eq_of_content {i j : Nat} (h : s!"idl.{i}.content" = s!"idl.{j}.content") : i = j :=
  Text.toString_injective
    ((String.append_right_inj "idl.").1 ((String.append_left_inj ".content").1 h))

theorem filename_ne_content (i j : Nat) : s!"idl.{i}.filename" ≠ s!"idl.{j}.content" := by
  intro h
  have hname : (s!"idl.{i}.filename").toList.getLast? = some 'e' := by
    rw [String.toList_append, List.getLast?_append]
    rfl
  have hcontent : (s!"idl.{j}.content").toList.getLast? = some 't' := by
    rw [String.toList_append, List.getLast?_append]
    rfl
  rw [h, hcontent] at hname
  cases hname

/-- The named values of files that are numbered from a number on. -/
def numbered (first : Nat) (bundle : List BundledFile) : List Field :=
  (bundle.zipIdx first).flatMap fun (file, i) =>
    [(s!"idl.{i}.filename", file.name), (s!"idl.{i}.content", Text.decodeLossy file.content)]

theorem numbered_cons (first : Nat) (file : BundledFile) (rest : List BundledFile) :
    numbered first (file :: rest) =
      (s!"idl.{first}.filename", file.name) ::
        (s!"idl.{first}.content", Text.decodeLossy file.content) :: numbered (first + 1) rest := rfl

theorem length_numbered (first : Nat) (bundle : List BundledFile) :
    (numbered first bundle).length = 2 * bundle.length := by
  induction bundle generalizing first with
  | nil => rfl
  | cons file rest ih =>
    rw [numbered_cons, List.length_cons, List.length_cons, ih, List.length_cons]
    omega

theorem getElem?_numbered (first : Nat) {i : Nat} {bundle : List BundledFile} {file : BundledFile}
    (h : bundle[i]? = some file) :
    (numbered first bundle)[2 * i]? = some (s!"idl.{first + i}.filename", file.name) ∧
      (numbered first bundle)[2 * i + 1]?
        = some (s!"idl.{first + i}.content", Text.decodeLossy file.content) := by
  induction bundle generalizing first i with
  | nil => cases h
  | cons other rest ih =>
    cases i with
    | zero =>
      cases h
      exact ⟨rfl, rfl⟩
    | succ i =>
      have hnext := ih (first + 1) h
      rw [Nat.add_right_comm] at hnext
      exact hnext

theorem name_of_mem_numbered {first : Nat} {bundle : List BundledFile} {name : String}
    (h : name ∈ (numbered first bundle).map Prod.fst) :
    ∃ i, first ≤ i ∧ (name = s!"idl.{i}.filename" ∨ name = s!"idl.{i}.content") := by
  induction bundle generalizing first with
  | nil => cases h
  | cons file rest ih =>
    rw [numbered_cons, List.map_cons, List.map_cons, List.mem_cons, List.mem_cons] at h
    rcases h with h | h | h
    · exact ⟨first, Nat.le_refl _, .inl h⟩
    · exact ⟨first, Nat.le_refl _, .inr h⟩
    · obtain ⟨i, hi, hname⟩ := ih h
      exact ⟨i, by omega, hname⟩

/-- No name occurs twice. -/
theorem nodup_numbered (first : Nat) (bundle : List BundledFile) :
    ((numbered first bundle).map Prod.fst).Nodup := by
  induction bundle generalizing first with
  | nil => exact List.nodup_nil
  | cons file rest ih =>
    rw [numbered_cons, List.map_cons, List.map_cons, List.nodup_cons, List.nodup_cons]
    refine ⟨fun h => ?_, fun h => ?_, ih (first + 1)⟩
    · rcases List.mem_cons.1 h with h | h
      · exact filename_ne_content first first h
      · obtain ⟨i, hi, hname | hname⟩ := name_of_mem_numbered h
        · have heq := eq_of_filename hname
          omega
        · exact filename_ne_content first i hname
    · obtain ⟨i, hi, hname | hname⟩ := name_of_mem_numbered h
      · exact filename_ne_content i first hname.symm
      · have heq := eq_of_content hname
        omega

/-! ### What a service is told -/

/-- The file of a number, where its two values are named. -/
def fileOf (fields : List Field) (i : Nat) : Option BundledFile :=
  match fields.lookup s!"idl.{i}.filename", fields.lookup s!"idl.{i}.content" with
  | some name, some text => some ⟨name, Text.encode text⟩
  | _, _ => none

/-- The files that named values tell of, in the order of their numbers. -/
def filesOf (fields : List Field) : List BundledFile :=
  (List.range fields.length).filterMap (fileOf fields)

/-- A file with the text of its content. -/
def asText (file : BundledFile) : BundledFile :=
  ⟨file.name, Text.encode (Text.decodeLossy file.content)⟩

theorem lookup_numbered (first i : Nat) (bundle : List BundledFile) :
    (numbered first bundle).lookup s!"idl.{first + i}.filename"
        = (bundle[i]?).map BundledFile.name ∧
      (numbered first bundle).lookup s!"idl.{first + i}.content"
        = (bundle[i]?).map fun file => Text.decodeLossy file.content := by
  induction bundle generalizing first i with
  | nil => exact ⟨rfl, rfl⟩
  | cons file rest ih =>
    cases i with
    | zero =>
      have hother := (filename_ne_content first first).symm
      rw [numbered_cons, Nat.add_zero, List.lookup_cons_self, List.lookup_cons,
        beq_eq_false_iff_ne.2 hother]
      exact ⟨rfl, List.lookup_cons_self⟩
    | succ i =>
      have hnext := ih (first + 1) i
      rw [Nat.add_right_comm] at hnext
      have hfilename : s!"idl.{first + i + 1}.filename" ≠ s!"idl.{first}.filename" := by
        intro h
        have heq := eq_of_filename h
        omega
      have hcontent : s!"idl.{first + i + 1}.content" ≠ s!"idl.{first}.content" := by
        intro h
        have heq := eq_of_content h
        omega
      have hother := filename_ne_content (first + i + 1) first
      have hother' := (filename_ne_content first (first + i + 1)).symm
      rw [numbered_cons, ← Nat.add_assoc, List.lookup_cons, beq_eq_false_iff_ne.2 hfilename,
        List.lookup_cons, beq_eq_false_iff_ne.2 hother, List.lookup_cons,
        beq_eq_false_iff_ne.2 hother', List.lookup_cons, beq_eq_false_iff_ne.2 hcontent]
      exact hnext

theorem fileOf_numbered (bundle : List BundledFile) (i : Nat) :
    fileOf (numbered 0 bundle) i = (bundle[i]?).map asText := by
  obtain ⟨hname, hcontent⟩ := lookup_numbered 0 i bundle
  rw [Nat.zero_add] at hname hcontent
  rw [fileOf, hname, hcontent]
  cases bundle[i]? <;> rfl

theorem filterMap_range_getElem? {α β : Type} (f : α → β) (xs : List α) {n : Nat}
    (h : xs.length ≤ n) : (List.range n).filterMap (fun i => (xs[i]?).map f) = xs.map f := by
  induction xs generalizing n with
  | nil => simp
  | cons x xs ih =>
    obtain ⟨n, rfl⟩ := Nat.exists_eq_succ_of_ne_zero (n := n) (by rintro rfl; cases h)
    have hrest := ih (n := n) (Nat.le_of_succ_le_succ h)
    rw [List.range_succ_eq_map, List.filterMap_cons, List.filterMap_map, List.map_cons, ← hrest]
    rfl

/-- The files are told of one by one, each with the text of its content. -/
theorem filesOf_namedValues (bundle : List BundledFile) :
    filesOf (namedValues bundle) = bundle.map asText := by
  have hlength : bundle.length ≤ (numbered 0 bundle).length := by
    rw [length_numbered]
    omega
  have hfiles := filterMap_range_getElem? asText bundle hlength
  rw [← hfiles]
  exact List.filterMap_congr fun i _ => fileOf_numbered bundle i

end Service

/-- Whether the content of a file is text. -/
def BundledFile.IsText (file : BundledFile) : Prop := ∃ text, file.content = Text.encode text

namespace Service

theorem map_asText {bundle : List BundledFile} (h : ∀ file ∈ bundle, file.IsText) :
    bundle.map asText = bundle := by
  refine (List.map_congr_left fun file hfile => ?_).trans (List.map_id bundle)
  obtain ⟨text, htext⟩ := h file hfile
  rw [asText, htext, Text.decodeLossy_encode, ← htext]
  rfl

/-- What reading a form gives that carries a bundle: two values for each file, in order and under
names of their own, and nothing else. If the content of all files is text, the bundle is told from
it as it is, and no other one is written like it. -/
structure ReadsBack (bundle : List BundledFile) (body : Bytes) : Prop where
  length : (Http.Form.decode body).length = 2 * bundle.length
  name : ∀ i file, bundle[i]? = some file →
    (Http.Form.decode body)[2 * i]? = some (s!"idl.{i}.filename", file.name)
  content : ∀ i file, bundle[i]? = some file →
    (Http.Form.decode body)[2 * i + 1]?
      = some (s!"idl.{i}.content", Text.decodeLossy file.content)
  distinct : ((Http.Form.decode body).map Prod.fst).Nodup
  recovered : (∀ file ∈ bundle, file.IsText) → filesOf (Http.Form.decode body) = bundle
  determined : ∀ other, (∀ file ∈ bundle, file.IsText) → (∀ file ∈ other, file.IsText) →
    Http.Form.encode (namedValues other) = body → other = bundle

theorem readsBack_encode (bundle : List BundledFile) :
    ReadsBack bundle (Http.Form.encode (namedValues bundle)) := by
  have hdecode := Http.Form.decode_encode (namedValues bundle)
  have hnumbered : namedValues bundle = numbered 0 bundle := rfl
  have hfiles : (∀ file ∈ bundle, file.IsText) → filesOf (namedValues bundle) = bundle :=
    fun htext => (filesOf_namedValues bundle).trans (map_asText htext)
  refine ⟨?_, fun i file hfile => ?_, fun i file hfile => ?_, ?_, ?_,
    fun other htext hother h => ?_⟩
  · rw [hdecode, hnumbered, length_numbered]
  · have hname := (getElem?_numbered 0 hfile).1
    rwa [Nat.zero_add, ← hnumbered, ← hdecode] at hname
  · have hcontent := (getElem?_numbered 0 hfile).2
    rwa [Nat.zero_add, ← hnumbered, ← hdecode] at hcontent
  · rw [hdecode]
    exact nodup_numbered 0 bundle
  · rw [hdecode]
    exact hfiles
  · have hsame : namedValues other = namedValues bundle := by
      rw [← Http.Form.decode_encode (namedValues other), h, hdecode]
    rw [← map_asText hother, ← filesOf_namedValues, hsame, hfiles htext]

/-- All that a translator asks of its service is what the bundle of its task asks. -/
theorem callees_carryOut {σ : Type} (network : Http.Network σ) (address : String)
    (limit : Option Nat) {task : TranslatorTask} {w : Workspace σ} {bundle : List BundledFile}
    (h : task.bundle w.files = .ok bundle) :
    (((translator network address limit).carryOut task).runIn w).2.callees =
      ((ask network address limit bundle).runIn w).2.callees := by
  rw [runIn_service, h, ask, BuildM.runIn_ofFunction]
  dsimp only
  cases deliveredBody address (Http.post network limit address (namedValues bundle) w.callees).1 <;>
    rfl

/-- A service is posted a form that tells it the whole bundle, with the translated file first. -/
theorem posted_readsBack {σ : Type} (network : Http.Network σ) (address : String)
    (limit : Option Nat) (bundle : List BundledFile) (w : Workspace (σ × List Http.Request)) :
    ∃ asked,
      ((ask (Http.keeping network) address limit bundle).runIn w).2.callees.2
        = w.callees.2 ++ asked ∧
      (∀ request ∈ asked, request.method = .post →
        request.contentType = some "application/x-www-form-urlencoded" ∧
          ∃ body, request.body = some body ∧ ReadsBack bundle body) ∧
      (∀ url, Http.requestable address = .ok url →
        ∃ request, asked.head? = some request ∧ request.method = .post ∧ request.url = url) ∧
      ∀ task : TranslatorTask, task.bundle w.files = .ok bundle →
        (∃ primary, BundledFile.read w.files task.idl.path = .ok primary ∧
          bundle.head? = some primary) ∧
        (((translator (Http.keeping network) address limit).carryOut task).runIn w).2.callees
          = ((ask (Http.keeping network) address limit bundle).runIn w).2.callees := by
  obtain ⟨asked, hasked, hposted, hfirst⟩ :=
    Http.post_keeping network limit address (namedValues bundle) w.callees
  refine ⟨asked, hasked, fun request hrequest hmethod => ?_, fun url haddress => ?_,
    fun task hbundle => ⟨?_, ?_⟩⟩
  · obtain ⟨htype, hbody⟩ := hposted request hrequest hmethod
    exact ⟨htype, _, hbody, readsBack_encode bundle⟩
  · exact ⟨_, hfirst url haddress, rfl, rfl⟩
  · obtain ⟨primary, hread, hrest⟩ := bind_eq_ok_iff.1 hbundle
    obtain ⟨others, -, hothers⟩ := bind_eq_ok_iff.1 hrest
    cases hothers
    exact ⟨primary, hread, rfl⟩
  · exact callees_carryOut (Http.keeping network) address limit hbundle

example : Http.Form.encode (namedValues [⟨"a b.idl", [0x26, 0xFF]⟩])
    = Text.encode "idl.0.filename=a+b.idl&idl.0.content=%26%EF%BF%BD" := by decide +kernel

end Service

end IdlBuild
