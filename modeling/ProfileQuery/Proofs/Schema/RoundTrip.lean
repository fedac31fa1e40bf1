import ProfileQuery.Proofs.Schema.Layout
import ProfileQuery.Proofs.Unicode.CodeSet

/-!
# Relations files: what is written is read back

The text of a schema that a relations file can describe is one of its layouts: each field has a line
with its name, the tag of its datatype, its marks and its comment, and empty lines stand between
relations. So the text of every schema that was read is read as the same schema. The schemas that
are read from some text are exactly those of `Schema.Declarable`, and each is read from its layouts
and from no other text (`read_eq_ok_iff_laidOut`).
-/

namespace ProfileQuery

open Text RelationsFile

/-! ## The words of a field -/

/-- The words of a field after its name: the tag of its datatype and its marks. -/
def Field.attributes (f : Field) : List String :=
  f.datatype.tag ::
    ((if f.isKey then [":key"] else []) ++ if f.isPartialKey then [":partial"] else [])

/-- All words of a field. -/
def Field.words (f : Field) : List (List Char) := (f.name :: f.attributes).map String.toList

theorem Field.toList_declaration (f : Field) :
    f.declaration.toList = ' ' :: spaced f.words := by
  unfold Field.declaration Field.marks Field.words Field.attributes
  cases f.isKey <;> cases f.isPartialKey <;> simp [spaced]

namespace RelationsFile

variable {s : Schema} {line : List Char} {rest : List (List Char)} {f : Field}

/-! ## Headings -/

theorem ofText_heading {name : String} (h : Headline name.toList)
    (hline : trim line = name.toList ++ [':']) : Line.ofText (trim line) = .heading name :=
  ofText_eq_heading_iff.mpr ⟨hline, h⟩

/-! ## Declarations -/

theorem space_replicate (n : Nat) : Space (List.replicate n ' ') := by
  intro c hc
  obtain rfl := List.eq_of_mem_replicate hc
  exact ⟨rfl, by decide⟩

theorem exists_remark (h : f.Declarable) :
    ∃ remark, Remark f.comment remark ∧ f.render.toList = f.declaration.toList ++ remark := by
  cases hcomment : f.comment with
  | none => exact ⟨[], .none .nil, by rw [Field.render, hcomment, List.append_nil]⟩
  | some comment =>
    obtain ⟨hne, -, -⟩ := h.comment comment hcomment
    have hempty : comment.isEmpty = false := by
      rw [← Bool.not_eq_true, String.isEmpty_iff]
      rintro rfl
      exact hne rfl
    refine ⟨_, .comment comment (space_replicate (Field.commentColumn - f.declaration.length))
      (space_replicate 1) .nil, ?_⟩
    rw [Field.render, hcomment]
    simp [hempty]

/-- The line of a field is laid out for the field. -/
theorem layout_render (h : f.Declarable) : LineLayout (some (.field f)) f.render.toList := by
  set marks := (if f.isKey then [":key"] else []) ++ if f.isPartialKey then [":partial"] else []
    with hmarks
  have hmem : ∀ mark, mark ∈ marks ↔
      mark = ":key" ∧ f.isKey = true ∨ mark = ":partial" ∧ f.isPartialKey = true := by
    intro mark
    rw [hmarks]
    cases f.isKey <;> cases f.isPartialKey <;> simp
  have hplain : ∀ mark ∈ marks, Plain mark.toList := by
    intro mark hmark
    rcases (hmem mark).mp hmark with ⟨rfl, -⟩ | ⟨rfl, -⟩
    · simp [plain_iff, Bare, isBlank]
    · simp [plain_iff, Bare, isBlank]
  have hdeclaration : f.declaration.toList = List.replicate 2 ' ' ++ f.name.toList ++
      spaced (f.datatype.tag.toList :: marks.map String.toList) := by
    rw [f.toList_declaration]
    simp [Field.words, Field.attributes, spaced, hmarks]
  obtain ⟨remark, hremark, hrender⟩ := exists_remark h
  rw [hrender, hdeclaration]
  exact .field f (space_replicate 2) hplain (by simp [hmem]) (by simp [hmem]) (spread_spaced _)
    hremark

/-! ## Runs of lines -/

/-- The lines of a relation. -/
def relationLines (r : Relation) : List (List Char) :=
  (r.name.toList ++ [':']) :: r.fields.map (·.render.toList)

/-- The lines of relations with an empty line in front of each, up to the end of the text. -/
def blankLed (rs : List Relation) : List (List Char) :=
  rs.flatMap ([] :: relationLines ·) ++ [[]]

theorem ended_relation {r : Relation} {back : List Char} (h : Ended rest back) :
    Ended (relationLines r ++ rest) (r.render.toList ++ back) := by
  have hfields : ∀ fs : List Field, Ended (fs.map (·.render.toList) ++ rest)
      ((String.join (fs.map (·.render ++ "\n"))).toList ++ back) := by
    intro fs
    induction fs with
    | nil => exact h
    | cons f fs ih =>
      have hline := Ended.lf f.render.toList ih
      simpa [String.toList_join] using hline
  have hheading := Ended.lf (r.name.toList ++ [':']) (hfields r.fields)
  simpa [Relation.render, relationLines] using hheading

theorem ended_intercalate (r : Relation) (rs : List Relation) :
    Ended (relationLines r ++ blankLed rs)
      (String.intercalate "\n" ((r :: rs).map Relation.render)).toList := by
  induction rs generalizing r with
  | nil =>
    have h := ended_relation (r := r) (.last [])
    simpa [blankLed, String.toList_intercalate] using h
  | cons r' rs ih =>
    have h := ended_relation (r := r) (.lf [] (ih r'))
    simpa [blankLed, String.toList_intercalate] using h

theorem layout_relationLines {r : Relation} (h : r.Declarable) :
    List.Forall₂ LineLayout (r.entries.map some) (relationLines r) := by
  have hheading : LineLayout (some (.heading r.name)) (r.name.toList ++ [':']) := by
    have h := LineLayout.heading r.name Space.nil Space.nil
    simpa using h
  refine .cons hheading ?_
  rw [List.map_map, List.forall₂_map_left_iff, List.forall₂_map_right_iff, List.forall₂_same]
  exact fun f hf => layout_render (h.fields f hf)

theorem layout_blankLed {rs : List Relation} (h : ∀ r ∈ rs, r.Declarable) :
    List.Forall₂ LineLayout ((rs.flatMap fun r : Relation => none :: r.entries.map some) ++ [none])
      (blankLed rs) := by
  have hblank : LineLayout none [] := .blank .nil
  refine List.rel_append ?_ (.cons hblank .nil)
  induction rs with
  | nil => exact .nil
  | cons r rs ih =>
    obtain ⟨hr, hrest⟩ := List.forall_mem_cons.mp h
    exact .cons hblank (List.rel_append (layout_relationLines hr) (ih hrest))

theorem reduceOption_map_some {α : Type} (xs : List α) : (xs.map some).reduceOption = xs := by
  simp [List.reduceOption, List.filterMap_map]

theorem reduceOption_blankLed (rs : List Relation) :
    ((rs.flatMap fun r : Relation => none :: r.entries.map some) ++ [none]).reduceOption =
      rs.flatMap Relation.entries := by
  induction rs with
  | nil => rfl
  | cons r rs ih =>
    rw [List.flatMap_cons, List.append_assoc, List.cons_append, List.reduceOption_cons_of_none,
      List.reduceOption_append, reduceOption_map_some, ih, List.flatMap_cons]

/-- The text of a schema is a layout of it. -/
theorem laidOut_render (h : s.Declarable) : s.LaidOut s.render := by
  obtain ⟨relations, hnodup⟩ := s
  cases relations with
  | nil => exact ⟨[none], [[]], rfl, .cons (.blank .nil) .nil, .last []⟩
  | cons r rs =>
    obtain ⟨hr, hrest⟩ := List.forall_mem_cons.mp h
    refine ⟨_, _, ?_, List.rel_append (layout_relationLines hr) (layout_blankLed hrest),
      ended_intercalate r rs⟩
    rw [List.reduceOption_append, reduceOption_map_some, reduceOption_blankLed]
    rfl

/-- A schema that a relations file can describe is read from its own text. -/
theorem read_render_of_declarable (h : s.Declarable) : read s.render = .ok s :=
  read_of_laidOut h (laidOut_render h)

/-- The schemas that a relations file can describe. -/
theorem exists_read_iff : (∃ text, read text = .ok s) ↔ s.Declarable := by
  constructor
  · rintro ⟨text, h⟩
    exact declarable_of_read h
  · intro h
    exact ⟨s.render, read_render_of_declarable h⟩

/-- The text of a schema that was read is read as the same schema. -/
theorem read_render {text : String} (h : read text = .ok s) : read s.render = .ok s :=
  read_render_of_declarable (declarable_of_read h)

theorem headline_underscore (name : List Char) (h : Bare name) : Headline ('_' :: name) := by
  refine ⟨List.cons_ne_nil _ _, by simp [Unicode.isWord_underscore], ?_⟩
  intro c hc
  rcases List.mem_cons.mp hc with rfl | hmem
  · rfl
  · exact h c hmem

/-- A relation whose field names and comments use what the notation leaves open. -/
def notes : Relation where
  name := "_notes"
  fields := [⟨"id:x", .integer, true, false, some "first # second"⟩,
    ⟨"no.te", .other ":odd", false, true, none⟩]
  fields_nodup := by decide

/-- Tabulators, unknown marks, empty comments and empty lines are read over. -/
theorem read_render_notes : ∃ s : Schema, s.relations = [notes, ⟨"_none", [], by decide⟩] ∧
    read "_notes:\n\tid:x :integer :new :key#first # second\nno.te  :odd :partial #\n\n _none:" =
      .ok s ∧
    read s.render = .ok s := by
  have hlines : lines ("_notes:\n\tid:x :integer :new :key#first # second\n" ++
      "no.te  :odd :partial #\n\n _none:").toList =
      ["_notes:".toList, "\tid:x :integer :new :key#first # second".toList,
        "no.te  :odd :partial #".toList, [], " _none:".toList] := by cbv
  have hnotes : Line.ofText (trim "_notes:".toList) = .heading "_notes" :=
    ofText_heading (headline_underscore "notes".toList (by simp [Bare, isBlank])) rfl
  have hid : Line.ofText (trim "\tid:x :integer :new :key#first # second".toList) =
      .field "id:x" [":integer", ":new", ":key"] (some "first # second") := rfl
  have hnote : Line.ofText (trim "no.te  :odd :partial #".toList) =
      .field "no.te" [":odd", ":partial"] none := rfl
  have hnone : Line.ofText (trim " _none:".toList) = .heading "_none" :=
    ofText_heading (headline_underscore "none".toList (by simp [Bare, isBlank])) rfl
  have hfirst := finish_relation (s := .empty) (r := notes) (by simp [Schema.empty])
  have hread : read ("_notes:\n\tid:x :integer :new :key#first # second\n" ++
      "no.te  :odd :partial #\n\n _none:") = .ok ⟨[notes, ⟨"_none", [], by decide⟩], by decide⟩ := by
    rw [read, hlines, readLines_heading hnotes rfl, readLines_field hid rfl,
      readLines_field hnote rfl, readLines_blank]
    show readLines .empty (some ⟨notes.name, notes.fields.reverse⟩) (1 + 1 + 1 + 1 + 1)
      [" _none:".toList] = _
    rw [readLines_heading hnone hfirst]
    exact finish_relation (r := ⟨"_none", [], by decide⟩) (by simp [Schema.empty, notes])
  exact ⟨_, rfl, hread, read_render hread⟩

/-! ## Layouts that are read alike -/

/-- A schema is read from some text exactly when a relations file can describe it, and then it is
read from its layouts, and from these only. -/
theorem read_eq_ok_iff_laidOut : ((∃ text, read text = .ok s) ↔ s.Declarable) ∧
    ∀ text, read text = .ok s ↔ s.Declarable ∧ s.LaidOut text := by
  refine ⟨exists_read_iff, fun text => ⟨fun h => ⟨declarable_of_read h, laidOut_of_read h⟩, ?_⟩⟩
  rintro ⟨h, hlaid⟩
  exact read_of_laidOut h hlaid

theorem declarable_notes : notes.Declarable := by
  have hid : Plain "id:x".toList := by simp [plain_iff, Bare, isBlank]
  have hnote : Plain "no.te".toList := by simp [plain_iff, Bare, isBlank]
  have hinteger : Plain ":integer".toList := by simp [plain_iff, Bare, isBlank]
  have hodd : Plain ":odd".toList := by simp [plain_iff, Bare, isBlank]
  have htrimmed : Trimmed "first # second".toList := ⟨by simp [isBlank], by simp [isBlank]⟩
  refine ⟨headline_underscore "notes".toList (by simp [Bare, isBlank]), ?_⟩
  intro f hf
  rcases List.mem_pair.mp hf with rfl | rfl
  · exact ⟨hid, hinteger, rfl, by simpa using htrimmed⟩
  · exact ⟨hnote, hodd, rfl, by simp⟩

/-- One schema from two texts: one with nothing but what is needed, and one with other line ends,
blank lines, tabulators, unknown and repeated marks and room around the comment. -/
theorem read_eq_ok_iff_laidOut_notes : ∃ s : Schema, s.relations = [notes] ∧
    read "_notes:\nid:x :integer :key#first # second\nno.te :odd :partial" = .ok s ∧
    read ("\r\n _notes:\t\n\n\tid:x\t:integer :new  :key  # first # second \r\n" ++
      "no.te :odd :partial :partial #\n") = .ok s := by
  have hdeclarable : (⟨[notes], List.nodup_singleton _⟩ : Schema).Declarable := by
    intro r hr
    obtain rfl := List.mem_singleton.mp hr
    exact declarable_notes
  have hspace : Space [' '] := by simp [Space, isBlank]
  have htab : Space ['\t'] := by simp [Space, isBlank]
  have hwide : Space [' ', ' '] := by simp [Space, isBlank]
  have hmarks : ∀ marks ⊆ [":new", ":key", ":partial"], ∀ mark ∈ marks, Plain mark.toList := by
    have hall : ∀ mark ∈ [":new", ":key", ":partial"], Plain mark.toList := by
      simp [plain_iff, Bare, isBlank]
    exact fun marks hsubset mark hmark => hall mark (hsubset hmark)
  refine ⟨_, rfl, (read_eq_ok_iff_laidOut.2 _).mpr ⟨hdeclarable, ?_⟩,
    (read_eq_ok_iff_laidOut.2 _).mpr ⟨hdeclarable, ?_⟩⟩
  · have hheading := LineLayout.heading "_notes" .nil .nil
    have hid := LineLayout.field notes.fields[0] .nil (hmarks [":key"] (by simp))
      (by simp [notes]) (by simp [notes])
      (.cons hspace (by simp) (.cons hspace (by simp) .nil))
      (.comment "first # second" .nil .nil .nil)
    have hnote := LineLayout.field notes.fields[1] .nil (hmarks [":partial"] (by simp))
      (by simp [notes]) (by simp [notes])
      (.cons hspace (by simp) (.cons hspace (by simp) .nil)) (.none .nil)
    exact ⟨_, _, rfl, .cons hheading (.cons hid (.cons hnote .nil)), .lf _ (.lf _ (.last _))⟩
  · have hheading := LineLayout.heading "_notes" hspace htab
    have hid := LineLayout.field notes.fields[0] htab (hmarks [":new", ":key"] (by simp))
      (by simp [notes]) (by simp [notes])
      (.cons htab (by simp) (.cons hspace (by simp) (.cons hwide (by simp) .nil)))
      (.comment "first # second" hwide hspace hspace)
    have hnote := LineLayout.field notes.fields[1] .nil
      (hmarks [":partial", ":partial"] (by simp)) (by simp [notes]) (by simp [notes])
      (.cons hspace (by simp) (.cons hspace (by simp) (.cons hspace (by simp) .nil)))
      (.empty hspace .nil)
    exact ⟨[none, some (.heading "_notes"), none, some (.field notes.fields[0]),
        some (.field notes.fields[1]), none], _, rfl,
      .cons (.blank .nil) (.cons hheading (.cons (.blank .nil)
        (.cons hid (.cons hnote (.cons (.blank .nil) .nil))))),
      .crlf _ (.lf _ (.lf _ (.crlf _ (.lf _ (.last _)))))⟩

end RelationsFile

end ProfileQuery
