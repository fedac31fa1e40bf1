import ProfileQuery.Proofs.Outcome
import ProfileQuery.Proofs.Selection.Filter

/-!
# Conditions with other columns

A condition is renamed by calling a function for the columns of its comparisons, from left to right
(`Condition.mapColumns`). The function may keep a state and may fail; the first call that fails is
the last one (`mapColumns_visited`). What comes out differs in the columns only (`Renamed`), and is as
true as the condition where the new columns have the values of the old ones (`Renamed.eval_eq`).
-/

namespace ProfileQuery.Query

/-! ## Calls -/

/-- A function of names that may keep a state and may fail. What it did to the state before it
failed stays. -/
abbrev NameCall (ε σ : Type) := String → ExceptT ε (StateM σ) String

section Calls

variable {ε σ : Type} {f : NameCall ε σ} {start mid stop : σ} {e : ε}
  {columns columns' names names' : List String}

/-- Calls for several columns one after another that all succeed: each one starts in the state that
the one before it has left. -/
inductive Calls (f : NameCall ε σ) : σ → List String → List String → σ → Prop
  | nil (start : σ) : Calls f start [] [] start
  | cons {start mid stop : σ} {column name : String} {columns names : List String} :
      (f column).run.run start = (.ok name, mid) → Calls f mid columns names stop →
      Calls f start (column :: columns) (name :: names) stop

/-- Calls for several columns of which one fails. No call is made for the columns behind it. -/
def BreaksOff (f : NameCall ε σ) (start : σ) (columns : List String) (e : ε) (stop : σ) : Prop :=
  ∃ before column after names mid, columns = before ++ column :: after ∧
    Calls f start before names mid ∧ (f column).run.run mid = (.error e, stop)

theorem Calls.append (h : Calls f start columns names mid) (h' : Calls f mid columns' names' stop) :
    Calls f start (columns ++ columns') (names ++ names') stop := by
  induction h with
  | nil => exact h'
  | cons hcall _ ih => exact .cons hcall (ih h')

theorem Calls.append_breaksOff (h : Calls f start columns names mid)
    (h' : BreaksOff f mid columns' e stop) : BreaksOff f start (columns ++ columns') e stop := by
  obtain ⟨before, column, after, names', mid', rfl, hbefore, hcall⟩ := h'
  exact ⟨columns ++ before, column, after, names ++ names', mid', by simp, h.append hbefore, hcall⟩

theorem BreaksOff.append (h : BreaksOff f start columns e stop) (columns' : List String) :
    BreaksOff f start (columns ++ columns') e stop := by
  obtain ⟨before, column, after, names, mid, rfl, hbefore, hcall⟩ := h
  exact ⟨before, column, after ++ columns', names, mid, by simp, hbefore, hcall⟩

end Calls

namespace Condition

/-! ## Conditions of one shape -/

mutual

/-- Conditions of the same shape and with the same operators and literals, with related columns. -/
inductive Renamed (R : String → String → Prop) : Condition → Condition → Prop
  | comparison {op : Operator} {column column' : String} {literal : Value} : R column column' →
      Renamed R (.comparison op column literal) (.comparison op column' literal)
  | junction {op : Connective} {children children' : List Condition} :
      RenamedEach R children children' →
      Renamed R (.junction op children) (.junction op children')
  | negation {child child' : Condition} : Renamed R child child' →
      Renamed R (.negation child) (.negation child')

/-- Several conditions of the same shapes. -/
inductive RenamedEach (R : String → String → Prop) : List Condition → List Condition → Prop
  | nil : RenamedEach R [] []
  | cons {child child' : Condition} {children children' : List Condition} :
      Renamed R child child' → RenamedEach R children children' →
      RenamedEach R (child :: children) (child' :: children')

end

section Renamed

variable {R : String → String → Prop} {read read' : String → Value}

/-- Comparisons with the same operator and literal and with related columns. -/
structure RenamedLeaf (R : String → String → Prop) (leaf leaf' : Comparison) : Prop where
  op : leaf.op = leaf'.op
  column : R leaf.column leaf'.column
  literal : leaf.literal = leaf'.literal

mutual

theorem Renamed.leaves : ∀ {c c' : Condition}, Renamed R c c' →
    List.Forall₂ (RenamedLeaf R) c.leaves c'.leaves
  | _, _, .comparison h => .cons ⟨rfl, h, rfl⟩ .nil
  | _, _, .junction h => h.leavesOf
  | _, _, .negation h => h.leaves

theorem RenamedEach.leavesOf : ∀ {cs cs' : List Condition}, RenamedEach R cs cs' →
    List.Forall₂ (RenamedLeaf R) (Condition.leavesOf cs) (Condition.leavesOf cs')
  | _, _, .nil => .nil
  | _, _, .cons h hs => List.rel_append h.leaves hs.leavesOf

end

theorem Renamed.leafColumns {c c' : Condition} (h : Renamed R c c') :
    List.Forall₂ R c.leafColumns c'.leafColumns := by
  rw [leafColumns_eq, leafColumns_eq, List.forall₂_map_left_iff, List.forall₂_map_right_iff]
  exact h.leaves.imp fun _ _ hleaf => hleaf.column

mutual

/-- Conditions of one shape are equally true where related columns have the same value. -/
theorem Renamed.eval_eq (hread : ∀ column column', R column column' → read column = read' column') :
    ∀ {c c' : Condition}, Renamed R c c' → c.eval read = c'.eval read'
  | _, _, .comparison h => by rw [eval, eval, hread _ _ h]
  | .junction .and _, _, .junction h => by rw [eval, eval, h.evalEach_eq hread]
  | .junction .or _, _, .junction h => by rw [eval, eval, h.evalEach_eq hread]
  | _, _, .negation h => by rw [eval, eval, h.eval_eq hread]

theorem RenamedEach.evalEach_eq
    (hread : ∀ column column', R column column' → read column = read' column') :
    ∀ {cs cs' : List Condition}, RenamedEach R cs cs' → evalEach read cs = evalEach read' cs'
  | _, _, .nil => rfl
  | _, _, .cons h hs => by rw [evalEach, evalEach, h.eval_eq hread, hs.evalEach_eq hread]

end

end Renamed

/-! ## Renaming -/

section Visits

variable {ε σ : Type}

/-- What comes of renaming a condition: either all calls succeed and give the columns of a condition
of the same shape, or one of them fails and the error is the outcome. -/
def Visited (f : NameCall ε σ) (start : σ) (c : Condition) : Except ε Condition × σ → Prop
  | (.ok renamed, stop) =>
    Calls f start c.leafColumns renamed.leafColumns stop ∧ Renamed (fun _ _ => True) c renamed
  | (.error e, stop) => BreaksOff f start c.leafColumns e stop

/-- What comes of renaming several conditions. -/
def VisitedEach (f : NameCall ε σ) (start : σ) (cs : List Condition) :
    Except ε (List Condition) × σ → Prop
  | (.ok renamed, stop) =>
    Calls f start (childrenColumns cs) (childrenColumns renamed) stop ∧
      RenamedEach (fun _ _ => True) cs renamed
  | (.error e, stop) => BreaksOff f start (childrenColumns cs) e stop

mutual

/-- The function is called once for the column of each comparison, from left to right, up to the
first call that fails. -/
theorem mapColumns_visited (f : NameCall ε σ) : ∀ (c : Condition) (start : σ),
    c.Visited f start ((c.mapColumns f).run.run start)
  | comparison op column literal, start => by
    rw [mapColumns, Outcome.run_bind]
    rcases hcall : (f column).run.run start with ⟨e | name, stop⟩
    · exact ⟨[], column, [], [], start, rfl, .nil start, hcall⟩
    · exact ⟨.cons hcall (.nil stop), .comparison trivial⟩
  | junction op children, start => by
    have hchildren := mapChildren_visited f children start
    rw [mapColumns, Outcome.run_bind]
    rcases hrun : (mapChildren f children).run.run start with ⟨e | renamed, stop⟩ <;>
      rw [hrun] at hchildren
    · exact hchildren
    · exact ⟨hchildren.1, .junction hchildren.2⟩
  | negation child, start => by
    have hchild := mapColumns_visited f child start
    rw [mapColumns, Outcome.run_bind]
    rcases hrun : (child.mapColumns f).run.run start with ⟨e | renamed, stop⟩ <;>
      rw [hrun] at hchild
    · exact hchild
    · exact ⟨hchild.1, .negation hchild.2⟩

theorem mapChildren_visited (f : NameCall ε σ) : ∀ (cs : List Condition) (start : σ),
    VisitedEach f start cs ((mapChildren f cs).run.run start)
  | [], start => ⟨.nil start, .nil⟩
  | child :: children, start => by
    have hchild := mapColumns_visited f child start
    rw [mapChildren, Outcome.run_bind]
    rcases hrun : (child.mapColumns f).run.run start with ⟨e | renamed, mid⟩ <;>
      rw [hrun] at hchild
    · exact hchild.append _
    · -- the other conditions are renamed in the state that the first one has left
      have hchildren := mapChildren_visited f children mid
      dsimp only
      rw [Outcome.run_bind]
      rcases hrest : (mapChildren f children).run.run mid with ⟨e | renamed', stop⟩ <;>
        rw [hrest] at hchildren
      · exact hchild.1.append_breaksOff hchildren
      · exact ⟨hchild.1.append hchildren.1, .cons hchild.2 hchildren.2⟩

end

end Visits

section Outcomes

variable {ε : Type} {rename : String → Except ε String}

mutual

/-- Each column of a renamed condition is what the renaming gives for the column in its place. -/
theorem renamed_of_mapColumns : ∀ {c renamed : Condition}, c.mapColumns rename = .ok renamed →
    Renamed (fun column name => rename column = .ok name) c renamed
  | comparison op column literal, _, h => by
    obtain ⟨name, hname, heq⟩ := Outcome.bind_eq_ok.mp h
    obtain rfl := Except.ok.inj heq
    exact .comparison hname
  | junction op children, _, h => by
    obtain ⟨children', hchildren, heq⟩ := Outcome.bind_eq_ok.mp h
    obtain rfl := Except.ok.inj heq
    exact .junction (renamedEach_of_mapChildren hchildren)
  | negation child, _, h => by
    obtain ⟨child', hchild, heq⟩ := Outcome.bind_eq_ok.mp h
    obtain rfl := Except.ok.inj heq
    exact .negation (renamed_of_mapColumns hchild)

theorem renamedEach_of_mapChildren : ∀ {cs renamed : List Condition},
    mapChildren rename cs = .ok renamed →
    RenamedEach (fun column name => rename column = .ok name) cs renamed
  | [], _, h => by
    obtain rfl := Except.ok.inj h
    exact .nil
  | child :: children, _, h => by
    obtain ⟨child', hchild, hrest⟩ := Outcome.bind_eq_ok.mp h
    obtain ⟨children', hchildren, heq⟩ := Outcome.bind_eq_ok.mp hrest
    obtain rfl := Except.ok.inj heq
    exact .cons (renamed_of_mapColumns hchild) (renamedEach_of_mapChildren hchildren)

end

end Outcomes

end Condition

end ProfileQuery.Query
