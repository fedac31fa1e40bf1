import ProfileQuery.Proofs.Query.Clauses
import ProfileQuery.Proofs.Query.Rereading
import ProfileQuery.Proofs.Query.Scan

/-!
# What a query is made of

The columns, relations and literals of a query that was read are those of its tokens. So a property
of these, proved for single tokens, holds throughout the query (`made_of_ofBody`, `made_of_ofText`).
-/

namespace ProfileQuery.Query

open Calendar (DateTime)

/-- Columns, relations and comparisons of a query that have given properties. -/
structure Select.Made (column relation : String → Prop) (leaf : Operator → String → Value → Prop)
    (q : Select) : Prop where
  columns : ∀ names, q.projection = .columns names → names ≠ [] ∧ ∀ name ∈ names, column name
  relations : ∀ name ∈ q.relations, relation name
  condition : ∀ c, q.condition = some c → c.Formed leaf
  named : ¬ (q.projection = .wildcard ∧ q.relations = [])

/-- Tokens of which only columns, relations and comparisons with given properties are read. -/
structure Material (now : DateTime) (column relation : String → Prop)
    (leaf : Operator → String → Value → Prop) (ts : List Token) : Prop where
  column : ∀ t ∈ ts, t.kind ∈ columnKinds → column t.literal
  relation : ∀ t ∈ ts, t.kind = .name → relation t.literal
  leaf : ∀ t ∈ ts, ∀ literal ∈ ts, ∀ op value, t.kind ∈ columnKinds →
    literal.kind ∈ literalKinds op → literalValue now literal = .ok value →
      leaf op t.literal value

variable {now : DateTime} {column relation : String → Prop}
  {leaf : Operator → String → Value → Prop} {ts us : List Token} {q : Select}

theorem Material.mono (h : Material now column relation leaf ts) (hsub : us ⊆ ts) :
    Material now column relation leaf us where
  column t ht := h.column t (hsub ht)
  relation t ht := h.relation t (hsub ht)
  leaf t ht literal hliteral := h.leaf t (hsub ht) literal (hsub hliteral)

theorem Material.tail {t : Token} (h : Material now column relation leaf (t :: ts)) :
    Material now column relation leaf ts :=
  h.mono (List.subset_cons_self t ts)

/-! ## Conditions -/

theorem Reads.suffix {phrase : Phrase} {cs : List Condition} (h : Reads now phrase ts cs us) :
    us <:+ ts := by
  induction h with
  | chain _ _ ihitem ihmore => exact ihmore.trans ihitem
  | more _ _ _ ihitem ihmore => exact (ihmore.trans ihitem).trans (List.suffix_cons ..)
  | done => exact List.suffix_rfl
  | negation _ _ ih => exact ih.trans (List.suffix_cons ..)
  | parens _ _ _ ih => exact ((List.suffix_cons ..).trans ih).trans (List.suffix_cons ..)
  | comparison => exact ⟨[_, _, _], rfl⟩

/-- A condition that is read is formed of comparisons of its tokens. -/
theorem Reads.formed {phrase : Phrase} {cs : List Condition} (h : Reads now phrase ts cs us)
    (hts : Material now column relation leaf ts) : ∀ c ∈ cs, c.Formed leaf := by
  induction h with
  | @chain op ts c us cs vs hitem _ ihitem ihmore =>
    intro d hd
    obtain rfl := List.mem_singleton.mp hd
    refine Condition.Formed.combine (List.cons_ne_nil c cs) (List.forall_mem_cons.mpr ?_)
    exact ⟨ihitem hts c (by simp), ihmore (hts.mono hitem.suffix.subset)⟩
  | @more op t ts c us cs vs _ hitem _ ihitem ihmore =>
    refine List.forall_mem_cons.mpr ⟨ihitem hts.tail c (by simp), ihmore ?_⟩
    exact hts.tail.mono hitem.suffix.subset
  | done => simp
  | negation _ _ ih =>
    intro d hd
    obtain rfl := List.mem_singleton.mp hd
    exact .negation (ih hts.tail _ (by simp))
  | parens _ _ _ ih => exact ih hts.tail
  | comparison hcolumn _ _ hliteral hvalue =>
    intro d hd
    obtain rfl := List.mem_singleton.mp hd
    refine .comparison (hts.leaf _ (by simp) _ (by simp) _ _ ?_ hliteral hvalue)
    rcases hcolumn with h | h <;> simp [columnKinds, h]

theorem formed_of_readWhere {conditions : List Condition}
    (h : readWhere now ts = .ok (conditions, us)) (hts : Material now column relation leaf ts) :
    ∀ c ∈ conditions, c.Formed leaf := by
  induction conditions generalizing ts with
  | nil => simp
  | cons c conditions ih =>
    obtain ⟨-, heq⟩ | ⟨mark, ts, c', others, rest, -, rfl, heq, hread, hothers⟩ :=
      readWhere_eq_ok h
    · cases heq
    · obtain ⟨rfl, rfl⟩ := List.cons.inj heq
      refine List.forall_mem_cons.mpr ⟨hread.formed hts.tail c (by simp), ih hothers ?_⟩
      exact hts.tail.mono hread.suffix.subset

/-! ## Projections and relations -/

theorem columns_of_readProjection {projection : Projection}
    (h : readProjection ts = .ok (projection, us)) (hts : Material now column relation leaf ts) :
    (∀ names, projection = .columns names → names ≠ [] ∧ ∀ name ∈ names, column name) ∧
      us <:+ ts := by
  rcases readProjection_eq_ok h with ⟨t, -, rfl, rfl⟩ | ⟨first, others, hkinds, rfl, rfl⟩
  · exact ⟨fun _ => nofun, List.suffix_cons ..⟩
  · refine ⟨?_, List.suffix_append ..⟩
    intro names heq
    obtain rfl := Projection.columns.inj heq
    refine ⟨by simp, ?_⟩
    intro name hname
    obtain ⟨t, ht, rfl⟩ := List.mem_map.mp hname
    exact hts.column t (List.mem_append_left _ ht) (hkinds t ht)

theorem relations_of_readRelations {relations : List String}
    (h : readRelations ts = .ok (relations, us)) (hts : Material now column relation leaf ts) :
    (∀ name ∈ relations, relation name) ∧ us <:+ ts := by
  rcases readRelations_eq_ok h with ⟨rfl, rfl⟩ | ⟨mark, first, others, -, hnames, rfl, rfl⟩
  · exact ⟨by simp, List.suffix_rfl⟩
  · refine ⟨?_, (List.suffix_append ..).trans (List.suffix_cons ..)⟩
    intro name hname
    obtain ⟨t, ht, rfl⟩ := List.mem_map.mp hname
    exact hts.tail.relation t (List.mem_append_left us ht) (hnames t ht)

/-! ## Queries -/

theorem made_of_readBody {text : String} (h : readBody now text ts = .ok q)
    (hts : Material now column relation leaf ts) : q.Made column relation leaf := by
  obtain ⟨us, vs, conditions, _, _, hprojection, hrelations, hconditions, -, hnamed, hcondition⟩ :=
    readBody_eq_ok.mp h
  -- every clause is read of a suffix of the tokens
  obtain ⟨hcolumns, hus⟩ := columns_of_readProjection hprojection hts
  have hts := hts.mono hus.subset
  obtain ⟨hnames, hvs⟩ := relations_of_readRelations hrelations hts
  have hformed := formed_of_readWhere hconditions (hts.mono hvs.subset)
  refine ⟨hcolumns, hnames, ?_, hnamed⟩
  intro c hc
  rw [← hcondition] at hc
  cases conditions with
  | nil => cases hc
  | cons first others =>
    obtain rfl := Option.some.inj hc
    exact Condition.Formed.combine (List.cons_ne_nil _ _) hformed

theorem made_of_ofBody {text : String} (h : Select.ofBody now text = .ok q)
    (hts : Material now column relation leaf (scan text)) : q.Made column relation leaf :=
  made_of_readBody h hts

theorem made_of_ofText {text : String} (h : Select.ofText now text = .ok q)
    (hts : Material now column relation leaf (scan text)) : q.Made column relation leaf := by
  unfold Select.ofText at h
  simp only at h
  split at h
  · cases h
  · split at h
    · exact made_of_readBody h (hts.mono fun _ => List.mem_of_mem_tail)
    · cases h
  · cases h

end ProfileQuery.Query
