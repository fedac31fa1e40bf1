import Mathlib
import ProfileQuery.Proofs.Query.Clauses
import ProfileQuery.Proofs.Query.Rendering

/-!
# Queries that are written and read again

A query that was read, all of its literals integers or dates, is written as a text that reads again:
as the same query, but for its condition, which is read as `Condition.reread` says.
-/

namespace ProfileQuery.Query

open Calendar (DateTime)

/-! ## Queries that were read -/

/-- What a query that was read of plain tokens consists of. -/
structure Select.Writable (q : Select) : Prop where
  columns : ∀ names, q.projection = .columns names → names ≠ [] ∧ ∀ name ∈ names, IsColumn name
  relations : ∀ name ∈ q.relations, Lexeme .name name.toList
  condition : ∀ c, q.condition = some c → c.Formed Query.Writable
  named : ¬ (q.projection = .wildcard ∧ q.relations = [])

/-- Of plain tokens a query is read that can be written. -/
theorem material_of_plain {now : DateTime} {ts : List Token} (h : ∀ t ∈ ts, Plain t) :
    Material now IsColumn (fun name => Lexeme .name name.toList) Query.Writable ts where
  column t ht hkind := isColumn_of_plain (h t ht) hkind
  relation t ht hkind := hkind ▸ (h t ht).lexeme (by simp [hkind])
  leaf t ht literal hliteral _ _ hcolumn hkind hvalue :=
    writable_of_plain hcolumn hkind hvalue (h t ht) (h literal hliteral)

/-- A query that was read, all of its literals integers or dates. -/
theorem writable_of_ofText {now : DateTime} {text : String} {q : Select}
    (h : Select.ofText now text = .ok q)
    (hliterals : ∀ t ∈ scan text, t.kind ∉ [Kind.doubleQuoted, .singleQuoted, .clockWord]) :
    q.Writable := by
  have hplain : ∀ t ∈ scan text, Plain t := fun t ht =>
    ⟨fun hkind => lexeme_of_mem_scan ht hkind, hliterals t ht⟩
  have hmade := made_of_ofText h (material_of_plain hplain)
  exact ⟨hmade.columns, hmade.relations, hmade.condition, hmade.named⟩

/-! ## The text of a query -/

/-- Names, each behind a space. -/
def namesText (names : List String) : List Char :=
  names.flatMap fun name => ' ' :: name.toList

/-- The text of a projection. -/
def projectionText : Projection → List Char
  | .wildcard => [' ', '*']
  | .columns names => namesText names

/-- The text of the relations. -/
def fromText : List String → List Char
  | [] => []
  | relations => ' ' :: ("from".toList ++ namesText relations)

/-- The text of the condition. -/
def whereText : Option Condition → List Char
  | none => []
  | some condition => ' ' :: ("where".toList ++ ' ' :: condition.render.toList)

theorem toList_join (names : List String) :
    (String.join (names.map (" " ++ ·))).toList = namesText names := by
  simp [namesText, List.flatMap_map]

theorem toList_intercalate (name : String) (names : List String) :
    ' ' :: (String.intercalate " " (name :: names)).toList = namesText (name :: names) := by
  induction names generalizing name with
  | nil => simp [namesText]
  | cons next names ih =>
    rw [String.intercalate_cons_cons, namesText, List.flatMap_cons, ← namesText, ← ih]
    simp

theorem toList_render (q : Select) :
    q.render.toList = "select".toList ++
      (projectionText q.projection ++ (fromText q.relations ++ whereText q.condition)) := by
  obtain ⟨projection, relations, condition⟩ := q
  have hprojection : projection.render.toList = projectionText projection := by
    cases projection with
    | wildcard => rfl
    | columns names => exact toList_join names
  have hfrom : (if relations.isEmpty then "" else " from " ++
      String.intercalate " " relations).toList = fromText relations := by
    cases relations with
    | nil => rfl
    | cons name names =>
      show (" from " ++ String.intercalate " " (name :: names)).toList = _
      rw [String.toList_append, fromText, ← toList_intercalate]
      rfl
      exact List.cons_ne_nil _ _
  simp only [Select.render, String.toList_append, hprojection, hfrom, List.append_assoc]
  cases condition with
  | none => rfl
  | some condition => simp [whereText]

/-! ## Reading the text of a query -/

theorem startsTime_of_startsName {c : Char} (h : startsName c = true) : startsTime c = false := by
  refine Bool.eq_false_iff.mpr fun htime => ?_
  have hall : (' ' :: '\t' :: '(' :: digitChars).all (fun c => !startsName c) = true := by decide
  have hmem : c ∈ ' ' :: '\t' :: '(' :: digitChars := by
    simp only [startsTime, isSpacing, Bool.or_eq_true, beq_iff_eq] at htime
    rcases htime with ((rfl | rfl) | rfl) | hdigit
    · simp
    · simp
    · simp
    · simp [mem_digitChars hdigit]
  have := List.all_eq_true.mp hall c hmem
  rw [h] at this
  cases this

theorem startsTime_name {kind : Kind} {name : String} (h : Lexeme kind name.toList)
    (hkind : kind ∈ columnKinds) (more : List Char) :
    ∀ c ∈ (name.toList ++ more).head?, startsTime c = false := by
  obtain ⟨c, rest, hname, -⟩ := h.start
  have hstart : startsName c = true := by
    simp only [columnKinds, List.mem_cons, List.not_mem_nil, or_false] at hkind
    rcases hkind with rfl | rfl
    · have := h.matches_rule (by decide) rfl
      rw [hname] at this
      simpa [Shape.starts, Shape.nullable, Shape.inOrder, nameShape] using this.starts
    · have := h.matches_rule (by decide) rfl
      rw [hname] at this
      simpa [Shape.starts, Shape.nullable, nameShape] using this.starts
  rw [hname]
  rintro d ⟨⟩
  exact startsTime_of_startsName hstart

/-- Names are tokens in front of what may stand behind them. -/
theorem Spells.names {kinds : List Kind} (hkinds : ∀ kind ∈ kinds, kind ∈ columnKinds)
    {names : List String} (hnames : ∀ name ∈ names, ∃ kind ∈ kinds, Lexeme kind name.toList)
    {ts : List Token} {more : List Char} (hmore : Behind more)
    (hts : Spells ts (namesText names ++ more)) :
    ∃ named us, ts = named ++ us ∧ named.map (·.literal) = names ∧
      (∀ t ∈ named, t.kind ∈ kinds) ∧ Spells us more := by
  induction names generalizing ts with
  | nil => exact ⟨[], ts, rfl, rfl, by simp, hts⟩
  | cons name names ih =>
    obtain ⟨⟨kind, hkind, hname⟩, hnames⟩ := List.forall_mem_cons.mp hnames
    have htext : namesText (name :: names) ++ more =
        ' ' :: (name.toList ++ (namesText names ++ more)) := by
      simp [namesText]
    rw [htext] at hts
    have hbehind : Behind (namesText names ++ more) := by
      cases names with
      | nil => exact hmore
      | cons next names =>
        obtain ⟨⟨kind', hkind', hnext⟩, -⟩ := List.forall_mem_cons.mp hnames
        have hstart := startsTime_name hnext (hkinds kind' hkind') (namesText names ++ more)
        rw [← List.append_assoc] at hstart
        exact .inr ⟨rfl, hstart⟩
    obtain ⟨place, rest, rfl, hrest⟩ :=
      hts.space.cons (hname.spelled_name (hkinds kind hkind) hbehind)
    obtain ⟨named, us, rfl, hliterals, hnamed, hus⟩ := ih hnames hrest
    exact ⟨_ :: named, us, rfl, congrArg _ hliterals, List.forall_mem_cons.mpr ⟨hkind, hnamed⟩, hus⟩

/-- The end of the input is the last token. -/
theorem Spells.nil {ts : List Token} (h : Spells ts []) :
    ∃ place, ts = [⟨.endOfInput, "", place⟩] := by
  unfold Spells at h
  rw [spelled_nil] at h
  obtain ⟨⟨kind, literal, place⟩, us, rfl, ht, hus⟩ := List.map_eq_cons_iff.mp h
  obtain ⟨rfl, rfl⟩ := Prod.mk.inj ht
  obtain rfl := List.map_eq_nil_iff.mp hus
  exact ⟨place, rfl⟩

theorem readWhere_whereText {condition : Option Condition}
    (h : ∀ c, condition = some c → c.Formed Query.Writable) (now : DateTime) {ts : List Token}
    (hts : Spells ts (whereText condition)) :
    (∃ conditions us, readWhere now ts = .ok (conditions, us) ∧
      whereCondition conditions = condition.map Condition.reread ∧ Spells us []) ∧
    ∀ t ∈ ts.head?, t.kind = .endOfInput ∨ t.kind = .whereWord := by
  cases condition with
  | none =>
    obtain ⟨place, rfl⟩ := hts.nil
    refine ⟨⟨[], _, readWhere_end now rfl, rfl, hts⟩, ?_⟩
    rintro t ⟨⟩
    exact .inl rfl
  | some c =>
    obtain ⟨place, rest, rfl, hrest⟩ := hts.space.cons (spelled_where c.render.toList)
    rw [← List.append_nil c.render.toList] at hrest
    have hclosing : Closing [] := trivial
    obtain ⟨us, hus, hread⟩ := reads_render (h c rfl) now hclosing hrest
    obtain ⟨hlt, hread⟩ := readDisjunction_eq_ok.mpr hread
    obtain ⟨place', rfl⟩ := hus.nil
    refine ⟨⟨[c.reread], _, ?_, rfl, hus⟩, ?_⟩
    · have hdone : readWhere now [⟨.endOfInput, "", place'⟩] =
          .ok ([], [⟨.endOfInput, "", place'⟩]) := readWhere_end now rfl
      rw [readWhere, if_pos rfl, hread]
      simp only [hdone]
    · rintro t ⟨⟩
      exact .inr rfl

/-- What stands behind the names of a query. -/
theorem behind_whereText (condition : Option Condition) : Behind (whereText condition) := by
  cases condition with
  | none => trivial
  | some c =>
    refine .inr ⟨rfl, ?_⟩
    rintro d ⟨⟩
    rfl

theorem behind_fromText (relations : List String) (condition : Option Condition) :
    Behind (fromText relations ++ whereText condition) := by
  cases relations with
  | nil => exact behind_whereText condition
  | cons name names =>
    refine .inr ⟨rfl, ?_⟩
    rintro d ⟨⟩
    rfl

theorem readRelations_fromText {relations : List String}
    (hnames : ∀ name ∈ relations, Lexeme .name name.toList) {condition : Option Condition}
    {ts : List Token} (hts : Spells ts (fromText relations ++ whereText condition))
    (hwhere : ∀ us, Spells us (whereText condition) →
      ∀ t ∈ us.head?, t.kind = .endOfInput ∨ t.kind = .whereWord) :
    (∃ us, readRelations ts = .ok (relations, us) ∧ Spells us (whereText condition)) ∧
      ∀ t ∈ ts.head?, t.kind ∉ columnKinds := by
  cases relations with
  | nil =>
    have hhead := hwhere ts hts
    refine ⟨⟨ts, readRelations_none ?_, hts⟩, ?_⟩
    · intro t ht
      rcases hhead t ht with h | h <;> rw [h] <;> exact Kind.noConfusion
    · intro t ht
      rcases hhead t ht with h | h <;> rw [h] <;> decide
  | cons name names =>
    have htext : fromText (name :: names) ++ whereText condition = ' ' :: ("from".toList ++
        ' ' :: (name.toList ++ (namesText names ++ whereText condition))) := by
      simp [fromText, namesText]
    rw [htext] at hts
    obtain ⟨place, rest, rfl, hrest⟩ := hts.space.cons (spelled_from _)
    have hrest : Spells rest (namesText (name :: names) ++ whereText condition) := by
      have htext : namesText (name :: names) ++ whereText condition =
          ' ' :: (name.toList ++ (namesText names ++ whereText condition)) := by
        simp [namesText]
      rw [Spells, htext, spelled_space]
      exact hrest
    have hkinds : ∀ n ∈ name :: names, ∃ kind ∈ [Kind.name], Lexeme kind n.toList :=
      fun n hn => ⟨.name, List.mem_singleton_self _, hnames n hn⟩
    obtain ⟨named, us, rfl, hliterals, hnamed, hus⟩ := Spells.names (by decide) hkinds
      (behind_whereText condition) hrest
    refine ⟨⟨us, ?_, hus⟩, ?_⟩
    · cases named with
      | nil => cases hliterals
      | cons first others =>
        rw [readRelations_names rfl (by simpa using hnamed), hliterals]
        intro t ht
        rcases hwhere us hus t ht with h | h <;> rw [h] <;> exact Kind.noConfusion
    · rintro t ⟨⟩
      show Kind.fromWord ∉ columnKinds
      decide

theorem readProjection_projectionText {projection : Projection}
    (hcolumns : ∀ names, projection = .columns names → names ≠ [] ∧ ∀ name ∈ names, IsColumn name)
    {ts : List Token} {more : List Char} (hmore : Behind more)
    (hts : Spells ts (projectionText projection ++ more))
    (hkinds : ∀ us, Spells us more → ∀ t ∈ us.head?, t.kind ∉ columnKinds) :
    ∃ us, readProjection ts = .ok (projection, us) ∧ Spells us more := by
  cases projection with
  | wildcard =>
    obtain ⟨place, us, rfl, hus⟩ := hts.space.cons (spelled_star more)
    exact ⟨us, rfl, hus⟩
  | columns names =>
    obtain ⟨hne, hnames⟩ := hcolumns names rfl
    obtain ⟨named, us, rfl, hliterals, hnamed, hus⟩ :=
      Spells.names (fun _ => id) hnames hmore hts
    cases named with
    | nil => exact absurd hliterals.symm hne
    | cons first others =>
      refine ⟨us, ?_, hus⟩
      rw [readProjection_names hnamed (hkinds us hus), hliterals]

/-- The query that the text of a query is read as. -/
def Select.reread (q : Select) : Select :=
  { q with condition := q.condition.map Condition.reread }

theorem readBody_render {q : Select} (h : q.Writable) (now : DateTime) (text : String)
    {ts : List Token} (hts : Spells ts (projectionText q.projection ++
      (fromText q.relations ++ whereText q.condition))) :
    readBody now text ts = .ok q.reread := by
  have hwhere := fun us (hus : Spells us (whereText q.condition)) =>
    (readWhere_whereText h.condition now hus).2
  have hkinds := fun us (hus : Spells us (fromText q.relations ++ whereText q.condition)) =>
    (readRelations_fromText h.relations hus hwhere).2
  -- the clauses one after another, each up to the text of the next
  obtain ⟨us, hprojection, hus⟩ := readProjection_projectionText h.columns
    (behind_fromText q.relations q.condition) hts hkinds
  obtain ⟨⟨vs, hrelations, hvs⟩, -⟩ := readRelations_fromText h.relations hus hwhere
  obtain ⟨⟨conditions, ws, hconditions, hcondition, hws⟩, -⟩ :=
    readWhere_whereText h.condition now hvs
  obtain ⟨place, rfl⟩ := hws.nil
  exact readBody_eq_ok.mpr ⟨us, vs, conditions, .atEnd place, [], hprojection, hrelations,
    hconditions, rfl, h.named, hcondition⟩

theorem projectionText_eq_cons {projection : Projection}
    (hcolumns : ∀ names, projection = .columns names → names ≠ [] ∧ ∀ name ∈ names, IsColumn name) :
    ∃ more, projectionText projection = ' ' :: more := by
  cases projection with
  | wildcard => exact ⟨['*'], rfl⟩
  | columns names =>
    cases names with
    | nil => exact absurd rfl (hcolumns [] rfl).1
    | cons name names => exact ⟨name.toList ++ namesText names, by simp [projectionText, namesText]⟩

/-- The text of a query that was read is read as the query that `reread` names. -/
theorem ofText_render_of_writable {q : Select} (h : q.Writable) (now : DateTime) :
    Select.ofText now q.render = .ok q.reread := by
  obtain ⟨more, hmore⟩ := projectionText_eq_cons h.columns
  have hscan : Spells (scan q.render) ("select".toList ++
      ' ' :: (more ++ (fromText q.relations ++ whereText q.condition))) := by
    rw [← List.cons_append, ← hmore, ← toList_render]
    rfl
  obtain ⟨place, ts, hts, hbody⟩ := hscan.cons (spelled_select _)
  have hbody : Spells ts (projectionText q.projection ++
      (fromText q.relations ++ whereText q.condition)) := by
    rw [Spells, hmore, List.cons_append, spelled_space]
    exact hbody
  have hword : Unicode.lowercase "select" ∈ leadingWords := by decide
  unfold Select.ofText
  simp only [hts, current, List.tail_cons, if_pos hword]
  exact readBody_render h now q.render hbody

/-- A query that was read, all of its literals integers or dates, is written as a text that reads
again. It reads as the same query exactly when no junction of its condition has a negation among its
children before the last one. -/
theorem Select.ofText_render {now : DateTime} {text : String} {q : Select}
    (h : Select.ofText now text = .ok q)
    (hliterals : ∀ t ∈ scan text, t.kind ∉ [Kind.doubleQuoted, .singleQuoted, .clockWord])
    (later : DateTime) :
    Select.ofText later q.render = .ok q.reread ∧
      (q.reread = q ↔ ∀ c, q.condition = some c → c.Settled) := by
  have hwritable := writable_of_ofText h hliterals
  refine ⟨ofText_render_of_writable hwritable later, ?_⟩
  obtain ⟨projection, relations, condition⟩ := q
  cases condition with
  | none => simp [Select.reread]
  | some c =>
    have hiff := Condition.reread_eq_self_iff (hwritable.condition c rfl)
    simpa [Select.reread] using hiff

/-! ## Two queries -/

/-- The moment at which the queries below are read. -/
def leapDay : DateTime :=
  ⟨⟨2020, 2, 29, by decide, by decide⟩, ⟨12, 30, 0, 0, by decide, by decide⟩⟩

theorem kind_of_all {text : String} {kinds : List Kind}
    (h : ((scan text).all fun t => decide (t.kind ∉ kinds)) = true) :
    ∀ t ∈ scan text, t.kind ∉ kinds :=
  fun t ht => of_decide_eq_true (List.all_eq_true.mp h t ht)

/-- A query whose condition is read as itself. -/
def settledQuery : Select :=
  ⟨.columns ["r.a", "b"], ["r"], some (.junction .and [
    .comparison .notEqual "b" (.integer (-3)),
    .negation (.junction .or [
      .comparison .equal "a" (.integer 1), .comparison .less "b" (.integer 2)])])⟩

theorem Select.ofText_render_settled :
    Select.ofText leapDay "select r.a b from r where b != -3 where not a = 1 or b < 2" =
        .ok settledQuery ∧
      Select.ofText leapDay settledQuery.render = .ok settledQuery.reread ∧
      (settledQuery.reread = settledQuery ↔
        ∀ c, settledQuery.condition = some c → c.Settled) := by
  have hread : Select.ofText leapDay "select r.a b from r where b != -3 where not a = 1 or b < 2" =
      .ok settledQuery := by cbv
  exact ⟨hread, Select.ofText_render hread (kind_of_all (by cbv)) leapDay⟩

/-- A negation before the last condition of a conjunction: written, it is read as reaching over the
whole conjunction. -/
def crossedQuery : Select :=
  ⟨.columns ["a"], [], some (.junction .and [.negation (.comparison .equal "a" (.integer 1)),
    .comparison .equal "b" (.integer 2)])⟩

theorem Select.ofText_render_crossed :
    Select.ofText leapDay "select a where (not a == 1) and b == 2" = .ok crossedQuery ∧
      (∀ t ∈ scan "select a where (not a == 1) and b == 2",
        t.kind ∉ [Kind.doubleQuoted, .singleQuoted, .clockWord]) ∧
      crossedQuery.render = "select a where (not (a == 1) and b == 2)" ∧
      Select.ofText leapDay crossedQuery.render ≠ .ok crossedQuery := by
  have hrender : crossedQuery.render = "select a where (not (a == 1) and b == 2)" := by cbv
  refine ⟨by cbv, kind_of_all (by cbv), hrender, ?_⟩
  have hreread : Select.ofText leapDay "select a where (not (a == 1) and b == 2)" =
      .ok ⟨.columns ["a"], [], some (.negation (.junction .and
        [.comparison .equal "a" (.integer 1), .comparison .equal "b" (.integer 2)]))⟩ := by cbv
  rw [hrender, hreread]
  intro heq
  cases heq

end ProfileQuery.Query
