import TeamsMirror.Database.Load
import TeamsMirror.Server.Store

/-!
# Records

Splitting undoes joining, for any bytes in the fields. The last part is about
files that were cut short: their records still name what they are about.
-/

namespace TeamsMirror

open Numerals

/-- A delimiter that is none of the characters with a meaning of their own. -/
def Delimits (delimiter : UInt8) : Prop := delimiter ∉ [0, 10, 92, 110, 114]

instance (delimiter : UInt8) : Decidable (Delimits delimiter) := by
  unfold Delimits
  infer_instance

/-- A delimiter whose escape stands for itself and that does not end a line. -/
def Separates (delimiter : UInt8) : Prop := delimiter ∉ [10, 92, 110, 114]

instance (delimiter : UInt8) : Decidable (Separates delimiter) := by
  unfold Separates
  infer_instance

variable {delimiter : UInt8}

theorem Delimits.separates (h : Delimits delimiter) : Separates delimiter := fun hmem =>
  h (List.mem_cons_of_mem 0 hmem)

/-- After the escape of a character the splitter has read that character. -/
theorem foldl_escapeCharacter (hd : Separates delimiter) (fields : List Bytes) (current : Bytes)
    (c : UInt8) :
    (escapeCharacter delimiter c).foldl (Splitter.step delimiter) ⟨fields, current, false⟩ =
      ⟨fields, current ++ [c], false⟩ := by
  simp only [Separates, List.mem_cons, List.not_mem_nil, or_false, not_or] at hd
  obtain ⟨-, -, hn, hr⟩ := hd
  unfold escapeCharacter
  split
  · next h =>
    have hplain : unescapeCharacter c = c := by
      rcases h with rfl | rfl
      · rfl
      · rw [unescapeCharacter, if_neg hn, if_neg hr]
    simp [Splitter.step, hplain]
  · next h =>
    split
    · next hc => simp [Splitter.step, unescapeCharacter, hc]
    · split
      · next hc => simp [Splitter.step, unescapeCharacter, hc]
      · simp only [not_or] at h
        simp [Splitter.step, h.1, h.2]

theorem foldl_escapeField (hd : Separates delimiter) (fields : List Bytes) (current value : Bytes) :
    (escapeField value delimiter).foldl (Splitter.step delimiter) ⟨fields, current, false⟩ =
      ⟨fields, current ++ value, false⟩ := by
  induction value generalizing current with
  | nil => simp [escapeField]
  | cons c value ih =>
    have hsplit : escapeField (c :: value) delimiter =
        escapeCharacter delimiter c ++ escapeField value delimiter := by simp [escapeField]
    rw [hsplit, List.foldl_append, foldl_escapeCharacter hd, ih, List.append_assoc]
    rfl

/-- The fields that follow the one being read. -/
theorem foldl_rest (hd : Separates delimiter) (fields : List Bytes) (current : Bytes)
    (rest : List Bytes) :
    ∃ fields' current',
      (rest.flatMap fun field => delimiter :: escapeField field delimiter).foldl
        (Splitter.step delimiter) ⟨fields, current, false⟩ = ⟨fields', current', false⟩ ∧
      fields' ++ [current'] = fields ++ current :: rest := by
  induction rest generalizing fields current with
  | nil => exact ⟨fields, current, rfl, rfl⟩
  | cons field rest ih =>
    have hbackslash : ¬delimiter = 92 := fun h => hd (by simp [h])
    have hdelimiter : Splitter.step delimiter ⟨fields, current, false⟩ delimiter =
        ⟨fields ++ [current], [], false⟩ := by
      simp [Splitter.step, hbackslash]
    obtain ⟨fields', current', hfold, heq⟩ := ih (fields ++ [current]) field
    refine ⟨fields', current', ?_, by rw [heq]; simp⟩
    rw [List.flatMap_cons, List.cons_append, List.foldl_cons, hdelimiter, List.foldl_append,
      foldl_escapeField hd, List.nil_append, hfold]

theorem splitEscapedLine_joinEscapedFields (hd : Separates delimiter) {fields : List Bytes}
    (hne : fields ≠ []) :
    splitEscapedLine (joinEscapedFields fields delimiter) delimiter = fields := by
  cases fields with
  | nil => exact absurd rfl hne
  | cons field rest =>
    obtain ⟨fields', current', hfold, heq⟩ := foldl_rest hd [] field rest
    rw [splitEscapedLine, joinEscapedFields, List.foldl_append, foldl_escapeField hd, List.nil_append,
      hfold]
    simpa using heq

/-- A character that `escapeField` never writes by itself. -/
theorem notMem_joinEscapedFields {b : UInt8} (hb : b ≠ 92 ∧ b ≠ 110 ∧ b ≠ 114 ∧ b ≠ delimiter)
    {fields : List Bytes} (h : ∀ field ∈ fields, b = 10 ∨ b ∉ field) :
    b ∉ joinEscapedFields fields delimiter := by
  obtain ⟨h92, h110, h114, hdelimiter⟩ := hb
  have hcharacter : ∀ c, b = 10 ∨ b ≠ c → b ∉ escapeCharacter delimiter c := by
    intro c hc
    unfold escapeCharacter
    split
    · next hspecial =>
      have hne : b ≠ c := by
        rcases hspecial with rfl | rfl
        · exact h92
        · exact hdelimiter
      simp [h92, hne]
    · split
      · simp [h92, h110]
      · split
        · simp [h92, h114]
        · next hten _ =>
          have hne : b ≠ c := by
            rcases hc with rfl | hc
            · exact fun he => hten he.symm
            · exact hc
          simpa using hne
  have hfield : ∀ field, b = 10 ∨ b ∉ field → b ∉ escapeField field delimiter := by
    intro field hf hmem
    obtain ⟨c, hc, hmem⟩ := List.mem_flatMap.mp hmem
    refine hcharacter c (hf.imp id fun hnot he => hnot (he ▸ hc)) hmem
  cases fields with
  | nil => simp [joinEscapedFields]
  | cons field rest =>
    intro hmem
    rcases List.mem_append.mp hmem with hmem | hmem
    · exact hfield field (h field (by simp)) hmem
    · obtain ⟨f, hf, hmem⟩ := List.mem_flatMap.mp hmem
      rcases List.mem_cons.mp hmem with hmem | hmem
      · exact hdelimiter hmem
      · exact hfield f (h f (List.mem_cons_of_mem field hf)) hmem

theorem lf_notMem_joinEscapedFields (hd : Separates delimiter) (fields : List Bytes) :
    10 ∉ joinEscapedFields fields delimiter := by
  have hne : (10 : UInt8) ≠ delimiter := fun h => hd (by simp [← h])
  exact notMem_joinEscapedFields ⟨by decide, by decide, by decide, hne⟩ fun _ _ => .inl rfl

theorem nul_notMem_joinEscapedFields (hd : Delimits delimiter) {fields : List Bytes}
    (h : ∀ field ∈ fields, 0 ∉ field) : 0 ∉ joinEscapedFields fields delimiter := by
  have hne : (0 : UInt8) ≠ delimiter := fun he => hd (by simp [← he])
  exact notMem_joinEscapedFields ⟨by decide, by decide, by decide, hne⟩ fun field hf => .inr (h field hf)

/-- A record of several fields is not written as an empty line. -/
theorem joinEscapedFields_ne_nil (field field' : Bytes) (rest : List Bytes) :
    joinEscapedFields (field :: field' :: rest) delimiter ≠ [] := by
  simp [joinEscapedFields]

/-- Escaping loses nothing, and a record stays one line of its file. -/
theorem escaping_lossless {fields : List Bytes} (hne : fields ≠ []) {delimiter : UInt8}
    (hbackslash : delimiter ≠ 92) (hn : delimiter ≠ 110) (hr : delimiter ≠ 114) (hlf : delimiter ≠ 10) :
    splitEscapedLine (joinEscapedFields fields delimiter) delimiter = fields ∧
      10 ∉ joinEscapedFields fields delimiter ∧
      ∀ following, Lines.lines 10 (joinEscapedFields fields delimiter ++ 10 :: following) =
        joinEscapedFields fields delimiter :: Lines.lines 10 following := by
  have hd : Separates delimiter := by simp [Separates, hbackslash, hn, hr, hlf]
  have hline : 10 ∉ joinEscapedFields fields delimiter := lf_notMem_joinEscapedFields hd fields
  exact ⟨splitEscapedLine_joinEscapedFields hd hne, hline, fun following =>
    Lines.lines_append_sep hline following⟩

/-- A field that ends in the escape character, one with a delimiter in it, an empty one. -/
theorem escaping_lossless_bar :
    splitEscapedLine (joinEscapedFields [[92], [124, 10, 13, 0], []] 124) 124 =
        [[92], [124, 10, 13, 0], []] ∧
      10 ∉ joinEscapedFields [[92], [124, 10, 13, 0], []] 124 ∧
      ∀ following, Lines.lines 10 (joinEscapedFields [[92], [124, 10, 13, 0], []] 124 ++ 10 :: following) =
        joinEscapedFields [[92], [124, 10, 13, 0], []] 124 :: Lines.lines 10 following :=
  escaping_lossless (by decide) (by decide) (by decide) (by decide) (by decide)

/-- With any other delimiter two empty fields, or a field that is the delimiter, are lost. -/
theorem separates_iff :
    Separates delimiter ↔ ∀ fields, fields ≠ [] →
      splitEscapedLine (joinEscapedFields fields delimiter) delimiter = fields ∧
        10 ∉ joinEscapedFields fields delimiter := by
  constructor
  · intro hd fields hne
    exact ⟨splitEscapedLine_joinEscapedFields hd hne, lf_notMem_joinEscapedFields hd fields⟩
  · intro h hmem
    obtain ⟨hempty, hline⟩ := h [[], []] (by decide)
    obtain ⟨hitself, -⟩ := h [[delimiter]] (List.cons_ne_nil _ _)
    simp only [List.mem_cons, List.not_mem_nil, or_false] at hmem
    rcases hmem with rfl | rfl | rfl | rfl
    · exact hline (by decide)
    · exact absurd hempty (by decide)
    · exact absurd hitself (by decide)
    · exact absurd hitself (by decide)

theorem Splitter.fields_prefix_foldl (line : Bytes) (s : Splitter) :
    s.fields <+: (line.foldl (Splitter.step delimiter) s).fields := by
  induction line generalizing s with
  | nil => exact List.prefix_refl _
  | cons c line ih =>
    have hstep : s.fields <+: (s.step delimiter c).fields := by
      unfold Splitter.step
      split
      · exact List.prefix_refl _
      · split
        · exact List.prefix_refl _
        · split
          · exact List.prefix_append _ _
          · exact List.prefix_refl _
    exact hstep.trans (ih (s.step delimiter c))

/-- The start of a line has the fields of the line, the last one excepted. -/
theorem dropLast_splitEscapedLine_prefix (delimiter : UInt8) {p line : Bytes} (h : p <+: line) :
    (splitEscapedLine p delimiter).dropLast <+: (splitEscapedLine line delimiter).dropLast := by
  obtain ⟨rest, rfl⟩ := h
  simp only [splitEscapedLine, List.dropLast_concat, List.foldl_append]
  exact Splitter.fields_prefix_foldl rest _

/-- A record that lost the end of its last field; of an escape the backslash may be left. -/
def CutOf (record fields : List Bytes) : Prop :=
  ∃ front last start, record = front ++ [last] ∧ start <+: last ∧
    (fields = front ++ [start] ∨ fields = front ++ [start ++ [92]])

/-- As long as no field ends, the current one grows. -/
theorem Splitter.currentField_prefix_foldl (line : Bytes) (s : Splitter)
    (h : (line.foldl (Splitter.step delimiter) s).fields.length = s.fields.length) :
    s.currentField <+: (line.foldl (Splitter.step delimiter) s).currentField := by
  induction line generalizing s with
  | nil => exact List.prefix_refl _
  | cons c line ih =>
    rw [List.foldl_cons] at h ⊢
    have hfields := (@Splitter.fields_prefix_foldl delimiter [c] s).length_le
    have hrest := (@Splitter.fields_prefix_foldl delimiter line (s.step delimiter c)).length_le
    simp only [List.foldl_cons, List.foldl_nil] at hfields
    have hsame : (s.step delimiter c).fields.length = s.fields.length := by omega
    have hcurrent : s.currentField <+: (s.step delimiter c).currentField := by
      unfold Splitter.step at hsame ⊢
      split
      · exact List.prefix_append _ _
      · next hescaping =>
        rw [if_neg hescaping] at hsame
        split
        · exact List.prefix_refl _
        · next hbackslash =>
          rw [if_neg hbackslash] at hsame
          split
          · next hdelimiter =>
            rw [if_pos hdelimiter] at hsame
            simp at hsame
          · exact List.prefix_append _ _
    exact hcurrent.trans (ih _ (by omega))

/-- The start of a line with as many fields as the line is the record but for the end of its last field. -/
theorem cutOf_splitEscapedLine (hd : Separates delimiter) {record : List Bytes} (hne : record ≠ []) {p : Bytes}
    (h : p <+: joinEscapedFields record delimiter)
    (hlength : (splitEscapedLine p delimiter).length = record.length) :
    CutOf record (splitEscapedLine p delimiter) := by
  obtain ⟨rest, hrest⟩ := h
  have hwhole := splitEscapedLine_joinEscapedFields hd hne
  rw [← hrest] at hwhole
  simp only [splitEscapedLine, List.foldl_append] at hwhole hlength ⊢
  generalize p.foldl (Splitter.step delimiter) ⟨[], [], false⟩ = s at hwhole hlength ⊢
  have hfields : (rest.foldl (Splitter.step delimiter) s).fields.length = s.fields.length := by
    have hrecord := congrArg List.length hwhole
    simp only [List.length_append, List.length_singleton] at hrecord hlength
    omega
  have hsame : s.fields = (rest.foldl (Splitter.step delimiter) s).fields :=
    (Splitter.fields_prefix_foldl rest s).eq_of_length hfields.symm
  have hcurrent := Splitter.currentField_prefix_foldl rest s hfields
  have hlast : ∃ last, record = s.fields ++ [last] ∧ s.currentField <+: last := by
    refine ⟨_, by rw [← hwhole, hsame], ?_⟩
    split
    · exact hcurrent.trans (List.prefix_append _ _)
    · exact hcurrent
  obtain ⟨last, hrecord, hstart⟩ := hlast
  refine ⟨s.fields, last, s.currentField, hrecord, hstart, ?_⟩
  cases s.escaping with
  | true => exact .inr rfl
  | false => exact .inl rfl

/-- No splitter state holds a NUL that the line does not. -/
theorem nul_notMem_splitEscapedLine {line : Bytes} (h : 0 ∉ line) :
    ∀ field ∈ splitEscapedLine line delimiter, 0 ∉ field := by
  have hfold : ∀ (l : Bytes) (s : Splitter), 0 ∉ l → (∀ field ∈ s.fields, 0 ∉ field) →
      0 ∉ s.currentField →
      (∀ field ∈ (l.foldl (Splitter.step delimiter) s).fields, 0 ∉ field) ∧
        0 ∉ (l.foldl (Splitter.step delimiter) s).currentField := by
    intro l
    induction l with
    | nil => exact fun s _ hs hcurrent => ⟨hs, hcurrent⟩
    | cons c l ih =>
      intro s hl hs hcurrent
      obtain ⟨hc, hl⟩ := not_or.mp (fun hmem => hl (List.mem_cons.mpr hmem))
      refine ih (s.step delimiter c) hl ?_ ?_
      · unfold Splitter.step
        split
        · exact hs
        · split
          · exact hs
          · split
            · exact List.forall_mem_append.mpr ⟨hs, List.forall_mem_singleton.mpr hcurrent⟩
            · exact hs
      · unfold Splitter.step
        split
        · have hplain : 0 ≠ unescapeCharacter c := by
            unfold unescapeCharacter
            split
            · decide
            · split
              · decide
              · exact hc
          simp [hcurrent, hplain]
        · split
          · exact hcurrent
          · split
            · simp
            · simp [hcurrent, hc]
  obtain ⟨hfields, hcurrent⟩ := hfold line ⟨[], [], false⟩ h (by simp) (by simp)
  refine List.forall_mem_append.mpr ⟨hfields, List.forall_mem_singleton.mpr ?_⟩
  split
  · simp [hcurrent]
  · exact hcurrent

end TeamsMirror
