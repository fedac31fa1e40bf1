import Mathlib.Data.List.TakeWhile
import ProfileQuery.Proofs.Text.Blank
import ProfileQuery.Schema.RelationsFile

/-!
# Relations files: what is read

The schemas that a relations file can describe are those whose names, datatypes and comments have
the form that a line has room for (`Schema.Declarable`). Reading gives no other schemas.
-/

namespace ProfileQuery

open Text RelationsFile

/-! ## Schemas that fit into a relations file -/

/-- A word of a declaration: characters that are neither blanks nor number signs, at least one. -/
structure Plain (word : List Char) : Prop where
  ne_nil : word ≠ []
  bare : Bare word
  unsigned : '#' ∉ word

theorem plain_iff {word : List Char} : Plain word ↔ word ≠ [] ∧ Bare word ∧ '#' ∉ word :=
  ⟨fun h => ⟨h.ne_nil, h.bare, h.unsigned⟩, fun ⟨ne_nil, bare, unsigned⟩ =>
    ⟨ne_nil, bare, unsigned⟩⟩

/-- A name that a heading can hold. -/
structure Headline (name : List Char) : Prop where
  ne_nil : name ≠ []
  word : ∀ c ∈ name.head?, Unicode.isWord c = true
  bare : Bare name

theorem Headline.bare_line {name : List Char} (h : Headline name) : Bare (name ++ [':']) := by
  intro c hc
  rcases List.mem_append.mp hc with hc | hc
  · exact h.bare c hc
  · obtain rfl := List.mem_singleton.mp hc
    rfl

/-- A field that a line can declare. -/
structure Field.Declarable (f : Field) : Prop where
  name : Plain f.name.toList
  tag : Plain f.datatype.tag.toList
  datatype : DataType.ofTag f.datatype.tag = f.datatype
  comment : ∀ comment ∈ f.comment,
    comment.toList ≠ [] ∧ Trimmed comment.toList ∧ '\n' ∉ comment.toList

/-- A relation that a relations file can describe. -/
structure Relation.Declarable (r : Relation) : Prop where
  name : Headline r.name.toList
  fields : ∀ f ∈ r.fields, f.Declarable

/-- A schema that a relations file can describe. -/
def Schema.Declarable (s : Schema) : Prop := ∀ r ∈ s.relations, r.Declarable

/-! ## Adding relations -/

theorem firstRepeated?_eq_none {seen names : List String} (hnodup : names.Nodup)
    (hseen : ∀ name ∈ names, name ∉ seen) : firstRepeated? seen names = none := by
  induction names generalizing seen with
  | nil => rfl
  | cons name names ih =>
    obtain ⟨hname, hnodup⟩ := List.nodup_cons.mp hnodup
    rw [firstRepeated?, if_neg (hseen name List.mem_cons_self)]
    apply ih hnodup
    intro other hother hmem
    rcases List.mem_cons.mp hmem with rfl | hmem
    · exact hname hother
    · exact hseen other (List.mem_cons_of_mem _ hother) hmem

/-- A relation is added, at the end, when its name is new and its fields have distinct names. -/
theorem Schema.addRelation_eq_ok {s s' : Schema} {name : String} {fields : List Field} :
    s.addRelation name fields = .ok s' ↔
      name ∉ s.names ∧ ∃ hnodup, s'.relations = s.relations ++ [⟨name, fields, hnodup⟩] := by
  obtain ⟨relations, hrelations⟩ := s'
  unfold Schema.addRelation
  constructor
  · intro h
    split at h
    · simp at h
    · next hname =>
      split at h
      · simp at h
      · next hnone =>
        have heq := Schema.mk.inj (Except.ok.inj h)
        exact ⟨hname, (nodup_of_firstRepeated? hnone).1, heq.symm⟩
  · rintro ⟨hname, hnodup, rfl⟩
    rw [dif_neg hname]
    split
    · next field hfield =>
      rw [firstRepeated?_eq_none hnodup fun _ _ => List.not_mem_nil] at hfield
      simp at hfield
    · rfl

namespace RelationsFile

variable {s s' : Schema} {draft : Option Draft} {number : Nat} {line raw name : List Char}
variable {rest : List (List Char)}

/-! ## What is read -/

theorem headingName?_eq_some : headingName? line = some name ↔
    line = name ++ [':'] ∧ Headline name := by
  unfold headingName?
  constructor
  · intro h
    split at h
    · next c cs hlast hfront =>
      split at h
      · next hname =>
        obtain rfl := Option.some.inj h
        obtain ⟨hword, hbare⟩ := Bool.and_eq_true_iff.mp hname
        refine ⟨?_, List.cons_ne_nil c cs, ?_, ?_⟩
        · rw [← hfront, List.dropLast_append_getLast? ':' hlast]
        · intro d hd
          obtain rfl : c = d := Option.some.inj hd
          exact hword
        · intro d hd
          simpa using List.all_eq_true.mp hbare d hd
      · simp at h
    · simp at h
  · rintro ⟨rfl, hne, hword, hbare⟩
    obtain ⟨c, cs, rfl⟩ := List.exists_cons_of_ne_nil hne
    have hname : (Unicode.isWord c && (c :: cs).all (!isBlank ·)) = true := by
      refine Bool.and_eq_true_iff.mpr ⟨hword c rfl, List.all_eq_true.mpr ?_⟩
      intro d hd
      simp [hbare d hd]
    simp only [List.getLast?_concat, List.dropLast_concat, hname, if_true]

theorem plain_of_mem_words (h : name ∈ words (beforeComment line)) : Plain name := by
  obtain ⟨hne, hbare, hsub⟩ := of_mem_words h
  refine ⟨hne, hbare, fun hsign => ?_⟩
  have hbefore := List.mem_takeWhile_imp (hsub hsign)
  simp at hbefore

theorem comment?_eq_some {comment : String} : comment? line = some comment ↔
    trim ((line.dropWhile (· != '#')).drop 1) = comment.toList ∧ comment.toList ≠ [] := by
  unfold comment?
  cases htrim : trim ((line.dropWhile (· != '#')).drop 1) with
  | nil =>
    constructor
    · simp
    · rintro ⟨heq, hne⟩
      exact absurd heq.symm hne
  | cons c cs =>
    constructor
    · intro h
      obtain rfl := Option.some.inj h
      simp
    · rintro ⟨heq, -⟩
      exact congrArg some (String.toList_inj.mp (by rw [String.toList_ofList, heq]))

theorem of_comment? {comment : String} (h : comment? line = some comment) (hline : '\n' ∉ line) :
    comment.toList ≠ [] ∧ Trimmed comment.toList ∧ '\n' ∉ comment.toList := by
  obtain ⟨htrim, hne⟩ := comment?_eq_some.mp h
  rw [← htrim]
  refine ⟨htrim ▸ hne, trimmed_trim _, fun hmem => hline ?_⟩
  exact (List.dropWhile_suffix _).subset (List.mem_of_mem_drop (trim_subset hmem))

/-- A line that declares a field has the form of one. -/
theorem declarable_of_ofText {field : String} {attributes : List String} {comment : Option String}
    {f : Field} (hline : Line.ofText line = .field field attributes comment)
    (hfield : fieldOf? field comment attributes = some f) (hnewline : '\n' ∉ line) :
    f.Declarable := by
  unfold Line.ofText at hline
  split at hline
  · simp at hline
  · split at hline
    · simp at hline
    · split at hline
      · simp at hline
      · next name attributes hwords =>
        obtain ⟨rfl, rfl, rfl⟩ := Line.field.inj hline
        cases attributes with
        | nil => simp [fieldOf?] at hfield
        | cons tag marks =>
          obtain rfl := Option.some.inj hfield
          have hname : Plain name := plain_of_mem_words (hwords ▸ List.mem_cons_self)
          have htag : Plain tag :=
            plain_of_mem_words (hwords ▸ List.mem_cons_of_mem _ List.mem_cons_self)
          exact {
            name := by rwa [String.toList_ofList]
            tag := by rwa [DataType.tag_ofTag, String.toList_ofList]
            datatype := by rw [DataType.tag_ofTag]
            comment := fun comment hcomment => of_comment? hcomment hnewline }

theorem ofText_eq_heading_iff {relation : String} : Line.ofText line = .heading relation ↔
    line = relation.toList ++ [':'] ∧ Headline relation.toList := by
  unfold Line.ofText
  constructor
  · intro h
    split at h
    · cases h
    · split at h
      · next name hname =>
        obtain rfl := Line.heading.inj h
        rw [String.toList_ofList]
        exact headingName?_eq_some.mp hname
      · split at h <;> cases h
  · intro h
    have hempty : line.isEmpty = false := by simp [h.1]
    rw [hempty, if_neg Bool.false_ne_true, headingName?_eq_some.mpr h]
    exact congrArg Line.heading String.ofList_toList

/-- A draft from which a declarable relation will come. -/
structure Draft.Declarable (draft : Draft) : Prop where
  name : Headline draft.name.toList
  fields : ∀ f ∈ draft.fields, f.Declarable

theorem declarable_of_finish (hs : s.Declarable) (hdraft : ∀ d ∈ draft, d.Declarable)
    (h : finish s draft = .ok s') : s'.Declarable := by
  cases draft with
  | none =>
    obtain rfl := Except.ok.inj h
    exact hs
  | some d =>
    obtain ⟨-, hnodup, hrelations⟩ := Schema.addRelation_eq_ok.mp h
    have hd := hdraft d rfl
    intro r hr
    rw [hrelations] at hr
    rcases List.mem_append.mp hr with hmem | hmem
    · exact hs r hmem
    · obtain rfl := List.mem_singleton.mp hmem
      exact ⟨hd.name, fun f hf => hd.fields f (List.mem_reverse.mp hf)⟩

/-! ## Line by line -/

theorem readLines_of_blank (h : Line.ofText (trim raw) = .blank) :
    readLines s draft number (raw :: rest) = readLines s draft (number + 1) rest := by
  conv_lhs => unfold readLines
  simp only [h]

theorem readLines_blank :
    readLines s draft number ([] :: rest) = readLines s draft (number + 1) rest :=
  readLines_of_blank rfl

theorem readLines_heading {name : String} (h : Line.ofText (trim raw) = .heading name)
    (hfinish : finish s draft = .ok s') :
    readLines s draft number (raw :: rest) =
      readLines s' (some ⟨name, []⟩) (number + 1) rest := by
  conv_lhs => unfold readLines
  simp only [h, hfinish]

theorem readLines_field {name : String} {attributes : List String} {comment : Option String}
    {f : Field} (h : Line.ofText (trim raw) = .field name attributes comment)
    (hfield : fieldOf? name comment attributes = some f) (d : Draft) :
    readLines s (some d) number (raw :: rest) =
      readLines s (some ⟨d.name, f :: d.fields⟩) (number + 1) rest := by
  conv_lhs => unfold readLines
  simp only [h, hfield]

/-- Lines are read where the first is blank, a heading or a field of the relation before it. -/
theorem readLines_cons_eq_ok (h : readLines s draft number (raw :: rest) = .ok s') :
    (Line.ofText (trim raw) = .blank ∧ readLines s draft (number + 1) rest = .ok s') ∨
      (∃ name s₁, Line.ofText (trim raw) = .heading name ∧ finish s draft = .ok s₁ ∧
        readLines s₁ (some ⟨name, []⟩) (number + 1) rest = .ok s') ∨
      ∃ name attributes comment f d, Line.ofText (trim raw) = .field name attributes comment ∧
        fieldOf? name comment attributes = some f ∧ draft = some d ∧
          readLines s (some ⟨d.name, f :: d.fields⟩) (number + 1) rest = .ok s' := by
  unfold readLines at h
  simp only at h
  split at h
  · next hline => exact .inl ⟨hline, h⟩
  · next name hline =>
    split at h
    · cases h
    · next s₁ hfinish => exact .inr (.inl ⟨name, s₁, hline, hfinish, h⟩)
  · next name attributes comment d hline =>
    split at h
    · cases h
    · next f hfield => exact .inr (.inr ⟨name, attributes, comment, f, d, hline, hfield, rfl, h⟩)
  · cases h

/-- Each line keeps what was read so far declarable. -/
theorem declarable_of_readLines (hs : s.Declarable) (hdraft : ∀ d ∈ draft, d.Declarable)
    (hnewline : ∀ line ∈ rest, '\n' ∉ line) (h : readLines s draft number rest = .ok s') :
    s'.Declarable := by
  induction rest generalizing s draft number with
  | nil => exact declarable_of_finish hs hdraft h
  | cons raw rest ih =>
    obtain ⟨hraw, hrest⟩ := List.forall_mem_cons.mp hnewline
    obtain ⟨-, hread⟩ | ⟨name, s₁, hline, hfinish, hread⟩ |
        ⟨name, attributes, comment, f, d, hline, hfield, rfl, hread⟩ := readLines_cons_eq_ok h
    · exact ih hs hdraft hrest hread
    · refine ih (declarable_of_finish hs hdraft hfinish) ?_ hrest hread
      intro d hd
      obtain rfl := Option.some.inj hd
      exact ⟨(ofText_eq_heading_iff.mp hline).2, fun f hf => absurd hf List.not_mem_nil⟩
    · have hf := declarable_of_ofText hline hfield fun hmem => hraw (trim_subset hmem)
      refine ih hs ?_ hrest hread
      intro e he
      obtain rfl := Option.some.inj he
      exact ⟨(hdraft d rfl).name, List.forall_mem_cons.mpr ⟨hf, (hdraft d rfl).fields⟩⟩

/-- Reading gives only schemas that a relations file can describe. -/
theorem declarable_of_read {text : String} (h : read text = .ok s) : s.Declarable := by
  refine declarable_of_readLines (fun r hr => absurd hr List.not_mem_nil) (by simp) ?_ h
  exact fun line hline => newline_not_mem_of_mem_lines hline

end RelationsFile

end ProfileQuery
