import Mathlib.Data.List.Forall2
import Mathlib.Data.List.ReduceOption
import ProfileQuery.Proofs.Schema.RelationsFile
import ProfileQuery.Proofs.Text.Space

/-!
# Relations files: layout

The texts that are read as one schema differ in their layout only. A layout writes the headings and
fields of the schema in order, one on a line, with blank lines between them as it likes; it chooses
the line ends, the space around and between the words of a line, the order of the marks and the
words between them, and how a comment is set off (`Schema.LaidOut`). All layouts of a schema that a
relations file can describe are read as that schema (`read_of_laidOut`), and no other text is
(`laidOut_of_read`).
-/

namespace ProfileQuery

open Text

namespace RelationsFile

/-! ## Layouts -/

/-- What a line says, unless it is blank: here a relation starts, or this is its next field. -/
inductive Entry where
  | heading (relation : String)
  | field (f : Field)

/-- What stands behind the words of a field: space at least, and a comment if it has one. -/
inductive Remark : Option String → List Char → Prop where
  | none {gap : List Char} (space : Space gap) : Remark none gap
  | empty {gap back : List Char} (space : Space gap) (after : Space back) :
      Remark none (gap ++ '#' :: back)
  | comment {gap front back : List Char} (text : String) (space : Space gap) (before : Space front)
      (after : Space back) : Remark (some text) (gap ++ '#' :: (front ++ text.toList ++ back))

/-- The lines on which something can be said, and the blank ones. -/
inductive LineLayout : Option Entry → List Char → Prop where
  | blank {line : List Char} (space : Space line) : LineLayout none line
  | heading {front back : List Char} (name : String) (before : Space front) (after : Space back) :
      LineLayout (some (.heading name)) (front ++ (name.toList ++ [':']) ++ back)
  | field {front body remark : List Char} {marks : List String} (f : Field) (before : Space front)
      (plain : ∀ mark ∈ marks, Plain mark.toList)
      (key : ":key" ∈ marks ↔ f.isKey = true)
      (partialKey : ":partial" ∈ marks ↔ f.isPartialKey = true)
      (spread : Spread (f.datatype.tag.toList :: marks.map String.toList) body)
      (after : Remark f.comment remark) :
      LineLayout (some (.field f)) (front ++ f.name.toList ++ body ++ remark)

/-- Text that consists of lines, each but the last with one of the two line ends behind it. -/
inductive Ended : List (List Char) → List Char → Prop where
  | last (line : List Char) : Ended [line] line
  | lf {rest : List (List Char)} {text : List Char} (line : List Char) (h : Ended rest text) :
      Ended (line :: rest) (line ++ '\n' :: text)
  | crlf {rest : List (List Char)} {text : List Char} (line : List Char) (h : Ended rest text) :
      Ended (line :: rest) (line ++ '\r' :: '\n' :: text)

end RelationsFile

open RelationsFile

/-- The heading of a relation and its fields. -/
def Relation.entries (r : Relation) : List Entry := .heading r.name :: r.fields.map .field

/-- All that a relations file is to say for a schema. -/
def Schema.entries (s : Schema) : List Entry := s.relations.flatMap Relation.entries

/-- The texts that say what there is to say for a schema, in order and each on a line of its own. -/
def Schema.LaidOut (s : Schema) (text : String) : Prop :=
  ∃ carried lines, carried.reduceOption = s.entries ∧ List.Forall₂ LineLayout carried lines ∧
    Ended lines text.toList

theorem Field.Declarable.plain_words {f : Field} {marks : List String} (h : f.Declarable)
    (hmarks : ∀ mark ∈ marks, Plain mark.toList) :
    ∀ word ∈ f.datatype.tag.toList :: marks.map String.toList, Plain word := by
  intro word hword
  rcases List.mem_cons.mp hword with rfl | hword
  · exact h.tag
  · obtain ⟨mark, hmark, rfl⟩ := List.mem_map.mp hword
    exact hmarks mark hmark

namespace RelationsFile

variable {s s' : Schema} {draft : Option Draft} {number : Nat} {line head back : List Char}
variable {rest : List (List Char)} {entry : Option Entry} {carried : List (Option Entry)}
variable {f : Field} {comment : Option String} {name tag : String} {marks : List String}

/-! ## Trimmed lines -/

theorem ne_numberSign_of_isBlank {c : Char} (h : isBlank c = true) : (c != '#') = true := by
  refine bne_iff_ne.mpr ?_
  rintro rfl
  cases h

theorem words_beforeComment_trim (line : List Char) :
    words (beforeComment (trim line)) = words (beforeComment line) := by
  obtain ⟨front, back, hline, hfront, hback⟩ := exists_trim line
  conv_rhs => rw [hline]
  rw [beforeComment, beforeComment, List.append_assoc,
    List.takeWhile_append_of_pos fun c hc => ne_numberSign_of_isBlank (hfront c hc),
    words_blanks_append hfront, List.takeWhile_append]
  split
  · next hall =>
    have htail : back.takeWhile (· != '#') = back :=
      List.takeWhile_eq_self_iff.mpr fun c hc => ne_numberSign_of_isBlank (hback c hc)
    rw [htail, words_append_blanks hback, (List.takeWhile_prefix _).eq_of_length hall]
  · rfl

theorem comment?_trim (line : List Char) : comment? (trim line) = comment? line := by
  obtain ⟨front, back, hline, hfront, hback⟩ := exists_trim line
  have hcut : trim (((trim line).dropWhile (· != '#')).drop 1) =
      trim ((line.dropWhile (· != '#')).drop 1) := by
    conv_rhs => rw [hline]
    rw [List.append_assoc,
      List.dropWhile_append_of_pos fun c hc => ne_numberSign_of_isBlank (hfront c hc),
      List.dropWhile_append]
    cases hremark : (trim line).dropWhile (· != '#') with
    | nil =>
      have htail : back.dropWhile (· != '#') = [] :=
        List.dropWhile_eq_nil_iff.mpr fun c hc => ne_numberSign_of_isBlank (hback c hc)
      simp [htail]
    | cons c remark =>
      show trim remark = trim (remark ++ back)
      exact (trim_append_blanks hback remark).symm
  rw [comment?, comment?, hcut]

/-- A line is read as blank where there is nothing else on it. -/
theorem ofText_trim_eq_blank_iff : Line.ofText (trim line) = .blank ↔
    ∀ c ∈ line, isBlank c = true := by
  rw [← trim_eq_nil_iff]
  generalize trim line = line
  constructor
  · intro h
    unfold Line.ofText at h
    split at h
    · next hempty => exact List.isEmpty_iff.mp hempty
    · split at h
      · cases h
      · split at h <;> cases h
  · rintro rfl
    rfl

/-- A line is read as a field with a datatype where there are two words at least. -/
theorem ofText_trim_eq_field_iff : Line.ofText (trim line) = .field name (tag :: marks) comment ↔
    words (beforeComment line) = (name :: tag :: marks).map String.toList ∧
      comment? line = comment := by
  rw [← words_beforeComment_trim, ← comment?_trim]
  generalize trim line = line
  constructor
  · intro h
    unfold Line.ofText at h
    split at h
    · cases h
    · split at h
      · cases h
      · split at h
        · cases h
        · next hwords =>
          obtain ⟨rfl, hattributes, rfl⟩ := Line.field.inj h
          simp [hwords, ← hattributes, Function.comp_def]
  · rintro ⟨hwords, rfl⟩
    have hempty : line.isEmpty = false := by
      cases line with
      | nil => simp [beforeComment, words] at hwords
      | cons => rfl
    have hheading : headingName? line = none := by
      cases hname : headingName? line with
      | none => rfl
      | some heading =>
        -- a heading has no blanks, so it is one word
        obtain ⟨rfl, hheadline⟩ := headingName?_eq_some.mp hname
        have hbare : Bare (beforeComment (heading ++ [':'])) := fun c hc =>
          hheadline.bare_line c (List.takeWhile_subset _ hc)
        have hlength := hbare.length_words_le_one
        simp [hwords] at hlength
    rw [Line.ofText, hempty, if_neg Bool.false_ne_true, hheading]
    simp [hwords, Function.comp_def]

/-! ## Comments -/

theorem beforeComment_append (hhead : '#' ∉ head) (remark : List Char) :
    beforeComment (head ++ remark) = head ++ beforeComment remark :=
  List.takeWhile_append_of_pos fun _ hc => bne_iff_ne.mpr (ne_of_mem_of_not_mem hc hhead)

theorem comment?_append (hhead : '#' ∉ head) (remark : List Char) :
    comment? (head ++ remark) = comment? remark := by
  rw [comment?, comment?, List.dropWhile_append_of_pos fun _ hc =>
    bne_iff_ne.mpr (ne_of_mem_of_not_mem hc hhead)]

theorem Remark.space (h : Remark comment line) : ∀ c ∈ beforeComment line, isBlank c = true := by
  have hgap : ∀ gap remark : List Char, Space gap →
      ∀ c ∈ beforeComment (gap ++ '#' :: remark), isBlank c = true := by
    intro gap remark space c hc
    rw [beforeComment_append (space.not_mem rfl)] at hc
    exact space.blank c (by simpa [beforeComment] using hc)
  cases h with
  | none space => exact fun c hc => space.blank c (List.takeWhile_subset _ hc)
  | empty space => exact hgap _ _ space
  | comment _ space => exact hgap _ _ space

theorem Remark.comment?_eq (h : Remark comment line)
    (hcomment : ∀ text ∈ comment, text.toList ≠ [] ∧ Trimmed text.toList) :
    comment? line = comment := by
  cases h with
  | none space =>
    have h := comment?_append (space.not_mem rfl) []
    rw [List.append_nil] at h
    rw [h]
    rfl
  | @empty gap back space after =>
    rw [comment?_append (space.not_mem rfl)]
    have hback : trim back = [] := trim_eq_nil_iff.mpr after.blank
    simp [comment?, hback]
  | comment text space before after =>
    obtain ⟨hne, htrimmed⟩ := hcomment text rfl
    rw [comment?_append (space.not_mem rfl)]
    exact comment?_eq_some.mpr ⟨htrimmed.trim_between before.blank after.blank, hne⟩

/-- Where only space stands in front of the number sign, a line is a remark with its comment. -/
theorem remark_comment? (hnewline : '\n' ∉ line)
    (hgap : ∀ c ∈ beforeComment line, isBlank c = true) : Remark (comment? line) line := by
  have hspace : Space (beforeComment line) := .of_blank hgap fun hmem =>
    hnewline (List.takeWhile_subset _ hmem)
  have hcut : line = beforeComment line ++ line.dropWhile (· != '#') :=
    List.takeWhile_append_dropWhile.symm
  have hhead : ∀ c ∈ (line.dropWhile (· != '#')).head?, c = '#' := by
    intro c hc
    have hnot := List.head?_dropWhile_not (· != '#') line
    rw [Option.mem_def.mp hc] at hnot
    simpa using hnot
  generalize beforeComment line = gap at hspace hcut
  generalize line.dropWhile (· != '#') = remark at hcut hhead
  subst hcut
  rw [comment?_append (hspace.not_mem rfl)]
  cases remark with
  | nil =>
    rw [List.append_nil]
    exact .none hspace
  | cons c text =>
    obtain rfl := hhead c rfl
    have hback : '\n' ∉ text := fun hmem => hnewline (by simp [hmem])
    obtain ⟨front, rear, htext, hfront, hrear⟩ := exists_trim text
    cases htrim : trim text with
    | nil =>
      have hnone : comment? ('#' :: text) = none := by simp [comment?, htrim]
      rw [hnone]
      exact .empty hspace (.of_blank (trim_eq_nil_iff.mp htrim) hback)
    | cons d comment =>
      have hsome : comment? ('#' :: text) = some (String.ofList (d :: comment)) := by
        simp [comment?, htrim]
      rw [htrim, ← String.toList_ofList (l := d :: comment)] at htext
      rw [hsome, htext]
      rw [htext] at hback
      exact .comment _ hspace (.of_blank hfront fun hmem => hback (by simp [hmem]))
        (.of_blank hrear fun hmem => hback (by simp [hmem]))

/-- A line with words in front of its comment consists of these, set apart by space, and a remark
behind them. -/
theorem exists_remark_of_words {word : List Char} {ws : List (List Char)} (hnewline : '\n' ∉ line)
    (hwords : words (beforeComment line) = word :: ws) :
    ∃ front body remark, line = front ++ word ++ body ++ remark ∧ Space front ∧ Spread ws body ∧
      Remark (comment? line) remark := by
  have hnewline' : '\n' ∉ beforeComment line := fun hmem =>
    hnewline (List.takeWhile_subset _ hmem)
  obtain ⟨front, body, back, hbefore, hfront, hspread, hback⟩ :=
    exists_spread_of_words_eq_cons hnewline' hwords
  have hunsigned : '#' ∉ front ++ word ++ body := by
    intro hmem
    have hmem' : '#' ∈ beforeComment line := hbefore ▸ List.mem_append_left back hmem
    simpa using List.mem_takeWhile_imp hmem'
  -- the remark begins with the space behind the last word
  have hline : line = front ++ word ++ body ++ (back ++ line.dropWhile (· != '#')) := by
    rw [← List.append_assoc, ← hbefore]
    exact List.takeWhile_append_dropWhile.symm
  generalize back ++ line.dropWhile (· != '#') = remark at hline
  subst hline
  rw [beforeComment_append hunsigned] at hbefore
  refine ⟨front, body, remark, rfl, hfront, hspread, ?_⟩
  rw [comment?_append hunsigned]
  refine remark_comment? (fun hmem => hnewline (List.mem_append_right _ hmem)) ?_
  rw [List.append_cancel_left hbefore]
  exact hback.blank

/-! ## Lines -/

/-- An entry that a line can have. -/
def Entry.Declarable : Entry → Prop
  | heading name => Headline name.toList
  | field f => f.Declarable

/-- What a line, once trimmed, is read as. -/
def Reads : Option Entry → List Char → Prop
  | none, line => Line.ofText (trim line) = .blank
  | some (.heading name), line => Line.ofText (trim line) = .heading name
  | some (.field f), line => ∃ attributes,
      Line.ofText (trim line) = .field f.name attributes f.comment ∧
        fieldOf? f.name f.comment attributes = some f

theorem of_fieldOf? {attributes : List String} (h : fieldOf? name comment attributes = some f) :
    f.name = name ∧ f.comment = comment := by
  cases attributes with
  | nil => cases h
  | cons tag marks =>
    obtain rfl := Option.some.inj h
    exact ⟨rfl, rfl⟩

theorem fieldOf?_eq_some : fieldOf? name comment (tag :: marks) = some f ↔
    f.name = name ∧ f.comment = comment ∧ f.datatype = .ofTag tag ∧
      (":key" ∈ marks ↔ f.isKey = true) ∧ (":partial" ∈ marks ↔ f.isPartialKey = true) := by
  obtain ⟨name', datatype, isKey, isPartialKey, comment'⟩ := f
  cases isKey <;> cases isPartialKey <;> simp [fieldOf?] <;> grind

namespace LineLayout

/-- A line is read as the entry for which it is laid out. -/
theorem reads (h : LineLayout entry line) (hentry : ∀ a ∈ entry, a.Declarable) :
    Reads entry line := by
  cases h with
  | blank space =>
    exact ofText_trim_eq_blank_iff.mpr space.blank
  | @heading front back name before after =>
    have hname : Headline name.toList := hentry _ rfl
    refine ofText_eq_heading_iff.mpr ⟨?_, hname⟩
    exact hname.bare_line.trimmed.trim_between before.blank after.blank
  | @field front body remark marks f before plain key partialKey spread after =>
    have hf : f.Declarable := hentry _ rfl
    have hplain := hf.plain_words plain
    have hunsigned : '#' ∉ front ++ f.name.toList ++ body := by
      simp only [List.mem_append, not_or]
      refine ⟨⟨before.not_mem rfl, hf.name.unsigned⟩, fun hmem => ?_⟩
      rcases spread.of_mem hmem with ⟨hblank, -⟩ | ⟨word, hword, hmem⟩
      · cases hblank
      · exact (hplain word hword).unsigned hmem
    refine ⟨f.datatype.tag :: marks, ofText_trim_eq_field_iff.mpr ⟨?_, ?_⟩,
      fieldOf?_eq_some.mpr ⟨rfl, rfl, hf.datatype.symm, key, partialKey⟩⟩
    · rw [beforeComment_append hunsigned, words_append_blanks after.space, List.append_assoc,
        words_blanks_append before.blank, words_append hf.name.ne_nil hf.name.bare spread.head,
        words_spread spread fun word hword => ⟨(hplain word hword).ne_nil, (hplain word hword).bare⟩]
      rfl
    · rw [comment?_append hunsigned]
      exact after.comment?_eq fun text htext =>
        ⟨(hf.comment text htext).1, (hf.comment text htext).2.1⟩

end LineLayout

/-- What is read from a line is what it is laid out for. -/
theorem Reads.layout (hnewline : '\n' ∉ line) (h : Reads entry line) : LineLayout entry line := by
  match entry with
  | none =>
    exact .blank (.of_blank (ofText_trim_eq_blank_iff.mp h) hnewline)
  | some (.heading name) =>
    obtain ⟨htrim, -⟩ := ofText_eq_heading_iff.mp h
    obtain ⟨front, back, hline, hfront, hback⟩ := exists_trim line
    rw [htrim] at hline
    rw [hline] at hnewline ⊢
    exact .heading name (.of_blank hfront fun hmem => hnewline (by simp [hmem]))
      (.of_blank hback fun hmem => hnewline (by simp [hmem]))
  | some (.field f) =>
    obtain ⟨attributes, hread, hfield⟩ := h
    cases attributes with
    | nil => cases hfield
    | cons tag marks =>
      obtain ⟨hwords, hcomment⟩ := ofText_trim_eq_field_iff.mp hread
      obtain ⟨-, -, hdatatype, hkey, hpartial⟩ := fieldOf?_eq_some.mp hfield
      have hplain : ∀ mark ∈ marks, Plain mark.toList := fun mark hmark =>
        plain_of_mem_words (show mark.toList ∈ words (beforeComment line) by
          simp [hwords, List.mem_map_of_mem hmark])
      have htag : tag = f.datatype.tag := by rw [hdatatype, DataType.tag_ofTag]
      obtain ⟨front, body, remark, hline, hfront, hspread, hremark⟩ :=
        exists_remark_of_words hnewline hwords
      rw [hline]
      exact .field f hfront hplain hkey hpartial (htag ▸ hspread) (hcomment ▸ hremark)

/-! ## Runs of lines -/

theorem Remark.ne_newline (h : Remark comment line)
    (hcomment : ∀ text ∈ comment, '\n' ∉ text.toList) : '\n' ∉ line := by
  cases h with
  | none space => exact space.ne_newline
  | empty space after => simp [space.ne_newline, after.ne_newline]
  | comment text space before after =>
    simp [space.ne_newline, before.ne_newline, after.ne_newline, hcomment text rfl]

theorem Remark.append (h : Remark comment line) (hback : Space back) :
    Remark comment (line ++ back) := by
  cases h with
  | none space => exact .none (space.append hback)
  | empty space after =>
    rw [List.append_assoc, List.cons_append]
    exact .empty space (after.append hback)
  | comment text space before after =>
    rw [List.append_assoc, List.cons_append, List.append_assoc]
    exact .comment text space before (after.append hback)

namespace LineLayout

theorem ne_newline (h : LineLayout entry line) (hentry : ∀ a ∈ entry, a.Declarable) :
    '\n' ∉ line := by
  cases h with
  | blank space => exact space.ne_newline
  | heading name before after =>
    have hname : Headline name.toList := hentry _ rfl
    simp [before.ne_newline, after.ne_newline, hname.bare.ne_newline]
  | field f before plain key partialKey spread after =>
    have hf : f.Declarable := hentry _ rfl
    have hremark := after.ne_newline fun text htext => (hf.comment text htext).2.2
    simp only [List.mem_append, not_or]
    refine ⟨⟨⟨before.ne_newline, hf.name.bare.ne_newline⟩, fun hmem => ?_⟩, hremark⟩
    rcases spread.of_mem hmem with ⟨-, hne⟩ | ⟨word, hword, hmem⟩
    · exact hne rfl
    · exact (hf.plain_words plain word hword).bare.ne_newline hmem

/-- More space at the end of a line does not count. -/
theorem append (h : LineLayout entry line) (hback : Space back) :
    LineLayout entry (line ++ back) := by
  cases h with
  | blank space => exact .blank (space.append hback)
  | heading name before after =>
    rw [List.append_assoc]
    exact .heading name before (after.append hback)
  | field f before plain key partialKey spread after =>
    rw [List.append_assoc]
    exact .field f before plain key partialKey spread (after.append hback)

end LineLayout

theorem ended_lines (text : List Char) : Ended (lines text) text := by
  induction text with
  | nil => exact .last []
  | cons c text ih =>
    rw [lines]
    split
    · next hc =>
      subst hc
      exact .lf [] ih
    · generalize lines text = pieces at ih
      cases ih with
      | last _ => exact .last _
      | lf line h => exact .lf (c :: line) h
      | crlf line h => exact .crlf (c :: line) h

/-- Where the lines of a text are laid out, so are the pieces between its newlines. -/
theorem Ended.layout_lines {pieces : List (List Char)} {text : List Char} (h : Ended pieces text)
    (hlayout : List.Forall₂ LineLayout carried pieces)
    (hcarried : ∀ entry ∈ carried, ∀ a ∈ entry, a.Declarable) :
    List.Forall₂ LineLayout carried (lines text) := by
  induction h generalizing carried with
  | last line =>
    obtain ⟨entry, rest, hline, hrest, rfl⟩ := List.forall₂_cons_right_iff.mp hlayout
    have hentry := hcarried entry List.mem_cons_self
    rw [lines_eq_singleton (hline.ne_newline hentry)]
    exact .cons hline hrest
  | lf line h ih =>
    obtain ⟨entry, rest, hline, hrest, rfl⟩ := List.forall₂_cons_right_iff.mp hlayout
    obtain ⟨hentry, hcarried⟩ := List.forall_mem_cons.mp hcarried
    rw [lines_append (hline.ne_newline hentry)]
    exact .cons hline (ih hrest hcarried)
  | @crlf _ text line h ih =>
    obtain ⟨entry, rest, hline, hrest, rfl⟩ := List.forall₂_cons_right_iff.mp hlayout
    obtain ⟨hentry, hcarried⟩ := List.forall_mem_cons.mp hcarried
    -- the carriage return counts as space at the end of the line
    have hline := hline.append (show Space ['\r'] by simp [Space, isBlank])
    have hcut : line ++ '\r' :: '\n' :: text = (line ++ ['\r']) ++ '\n' :: text := by simp
    rw [hcut, lines_append (hline.ne_newline hentry)]
    exact .cons hline (ih hrest hcarried)

/-! ## Schemas -/

/-- Entries that complete what was read so far to a schema. -/
inductive Builds : Schema → Option Draft → List Entry → Schema → Prop where
  | done {s s' : Schema} {draft : Option Draft} (h : finish s draft = .ok s') :
      Builds s draft [] s'
  | heading {s s₁ s' : Schema} {draft : Option Draft} {name : String} {entries : List Entry}
      (h : finish s draft = .ok s₁) (rest : Builds s₁ (some ⟨name, []⟩) entries s') :
      Builds s draft (.heading name :: entries) s'
  | field {s s' : Schema} {d : Draft} {f : Field} {entries : List Entry}
      (rest : Builds s (some ⟨d.name, f :: d.fields⟩) entries s') :
      Builds s (some d) (.field f :: entries) s'

/-- The entries of a draft. -/
def draftEntries : Option Draft → List Entry
  | none => []
  | some d => .heading d.name :: d.fields.reverse.map .field

theorem entries_of_finish (h : finish s draft = .ok s') :
    s'.entries = s.entries ++ draftEntries draft := by
  cases draft with
  | none =>
    obtain rfl := Except.ok.inj h
    exact (List.append_nil _).symm
  | some d =>
    obtain ⟨-, hnodup, hrelations⟩ := Schema.addRelation_eq_ok.mp h
    simp [Schema.entries, hrelations, Relation.entries, draftEntries]

/-- A schema says what its entries say. -/
theorem Builds.entries_eq {entries : List Entry} (h : Builds s draft entries s') :
    s'.entries = s.entries ++ draftEntries draft ++ entries := by
  induction h with
  | done h => rw [entries_of_finish h, List.append_nil]
  | heading h rest ih =>
    rw [ih, entries_of_finish h]
    simp [draftEntries]
  | field rest ih =>
    rw [ih]
    simp [draftEntries]

theorem finish_relation {r : Relation} (hnodup : ((s.relations ++ [r]).map (·.name)).Nodup) :
    finish s (some ⟨r.name, r.fields.reverse⟩) = .ok ⟨s.relations ++ [r], hnodup⟩ := by
  show s.addRelation r.name r.fields.reverse.reverse = _
  rw [List.reverse_reverse]
  refine Schema.addRelation_eq_ok.mpr ⟨fun hmem => ?_, r.fields_nodup, rfl⟩
  rw [List.map_append, List.nodup_append] at hnodup
  exact hnodup.2.2 _ hmem _ List.mem_cons_self rfl

theorem builds_fields {d : Draft} {fs : List Field} {entries : List Entry}
    (h : Builds s (some ⟨d.name, fs.reverse ++ d.fields⟩) entries s') :
    Builds s (some d) (fs.map .field ++ entries) s' := by
  induction fs generalizing d with
  | nil => exact h
  | cons f fs ih =>
    rw [List.reverse_cons, List.append_assoc] at h
    exact .field (ih h)

/-- The entries of further relations add these to a schema. -/
theorem builds_relations {rs : List Relation} (hfinish : finish s draft = .ok s')
    (hnodup : ((s'.relations ++ rs).map (·.name)).Nodup) :
    Builds s draft (rs.flatMap Relation.entries) ⟨s'.relations ++ rs, hnodup⟩ := by
  induction rs generalizing s draft s' with
  | nil => exact .done (by simp only [hfinish, List.append_nil])
  | cons r rs ih =>
    have happend : s'.relations ++ r :: rs = s'.relations ++ [r] ++ rs := by simp
    have hnodup' : ((s'.relations ++ [r] ++ rs).map (·.name)).Nodup := happend ▸ hnodup
    have hfirst : ((s'.relations ++ [r]).map (·.name)).Nodup := by
      rw [List.map_append] at hnodup'
      exact (List.nodup_append.mp hnodup').1
    have hrest := ih (finish_relation hfirst) hnodup'
    simp only [List.append_assoc, List.singleton_append] at hrest
    refine .heading hfinish (builds_fields ?_)
    rwa [List.append_nil]

theorem builds_entries (s : Schema) : Builds .empty none s.entries s :=
  have hfinish : finish .empty none = .ok .empty := rfl
  builds_relations hfinish s.relations_nodup

/-- Lines are read by reading each and putting together what it says. -/
theorem readLines_eq_ok_iff : readLines s draft number rest = .ok s' ↔
    ∃ carried, List.Forall₂ Reads carried rest ∧ Builds s draft carried.reduceOption s' := by
  constructor
  · intro h
    induction rest generalizing s draft number with
    | nil => exact ⟨[], .nil, .done h⟩
    | cons raw rest ih =>
      obtain ⟨hline, hread⟩ | ⟨name, s₁, hline, hfinish, hread⟩ |
          ⟨name, attributes, comment, f, d, hline, hfield, rfl, hread⟩ := readLines_cons_eq_ok h
      · obtain ⟨carried, hreads, hbuilds⟩ := ih hread
        exact ⟨none :: carried, .cons hline hreads, hbuilds⟩
      · obtain ⟨carried, hreads, hbuilds⟩ := ih hread
        exact ⟨some (.heading name) :: carried, .cons hline hreads, .heading hfinish hbuilds⟩
      · obtain ⟨carried, hreads, hbuilds⟩ := ih hread
        obtain ⟨rfl, rfl⟩ := of_fieldOf? hfield
        exact ⟨some (.field f) :: carried, .cons ⟨attributes, hline, hfield⟩ hreads, .field hbuilds⟩
  · rintro ⟨carried, hreads, hbuilds⟩
    induction hreads generalizing s draft number with
    | nil =>
      cases hbuilds with
      | done h => exact h
    | @cons entry raw carried rest hline hreads ih =>
      match entry with
      | none => exact (readLines_of_blank hline).trans (ih hbuilds)
      | some (.heading name) =>
        cases hbuilds with
        | heading hfinish hbuilds => exact (readLines_heading hline hfinish).trans (ih hbuilds)
      | some (.field f) =>
        obtain ⟨attributes, hline, hfield⟩ := hline
        cases hbuilds with
        | @field _ _ d _ _ hbuilds => exact (readLines_field hline hfield d).trans (ih hbuilds)

theorem declarable_entries (h : s.Declarable) : ∀ a ∈ s.entries, a.Declarable := by
  intro a ha
  obtain ⟨r, hr, ha⟩ := List.mem_flatMap.mp ha
  rcases List.mem_cons.mp ha with rfl | ha
  · exact (h r hr).name
  · obtain ⟨f, hf, rfl⟩ := List.mem_map.mp ha
    exact (h r hr).fields f hf

/-- The layouts of a schema that a relations file can describe are read as that schema. -/
theorem read_of_laidOut {text : String} (h : s.Declarable) (hlaid : s.LaidOut text) :
    read text = .ok s := by
  obtain ⟨carried, pieces, hentries, hlayout, hended⟩ := hlaid
  have hcarried : ∀ entry ∈ carried, ∀ a ∈ entry, a.Declarable := by
    rintro entry hentry a rfl
    exact declarable_entries h a (hentries ▸ List.reduceOption_mem_iff.mpr hentry)
  have hreads := (List.forall₂_and_left _ _).mpr
    ⟨hcarried, hended.layout_lines hlayout hcarried⟩
  exact readLines_eq_ok_iff.mpr ⟨carried, hreads.imp fun entry line h => h.2.reads h.1,
    hentries ▸ builds_entries s⟩

/-- A text is a layout of the schema that it is read as. -/
theorem laidOut_of_read {text : String} (h : read text = .ok s) : s.LaidOut text := by
  obtain ⟨carried, hreads, hbuilds⟩ := readLines_eq_ok_iff.mp h
  have hentries : s.entries = carried.reduceOption := hbuilds.entries_eq
  have hlayout := (List.forall₂_and_left _ _).mpr
    ⟨fun line hline => newline_not_mem_of_mem_lines hline, hreads.flip⟩
  exact ⟨carried, lines text.toList, hentries.symm,
    hlayout.flip.imp fun entry line h => Reads.layout h.1 h.2, ended_lines _⟩

end RelationsFile

end ProfileQuery
