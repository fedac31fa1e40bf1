import ProfileQuery.Error

/-!
# Schemas

The relations of a profile with their fields, in order. Relations have distinct names, and so have
the fields of a relation; both conditions are part of the types.
-/

namespace ProfileQuery

/-- The first name that occurs again before the end of a list, in the order of the second
occurrences; `seen` holds the names before the list. -/
def firstRepeated? (seen : List String) : List String → Option String
  | [] => none
  | name :: names => if name ∈ seen then some name else firstRepeated? (name :: seen) names

theorem nodup_of_firstRepeated? {seen names : List String}
    (h : firstRepeated? seen names = none) : names.Nodup ∧ ∀ name ∈ names, name ∉ seen := by
  induction names generalizing seen with
  | nil => simp
  | cons name names ih =>
    unfold firstRepeated? at h
    split at h
    · simp at h
    · next hname =>
      obtain ⟨hnodup, hout⟩ := ih h
      refine ⟨List.nodup_cons.mpr ⟨fun hmem => hout name hmem List.mem_cons_self, hnodup⟩, ?_⟩
      intro other hother
      rcases List.mem_cons.mp hother with rfl | hmem
      · exact hname
      · exact fun hseen => hout other hmem (List.mem_cons_of_mem _ hseen)

/-- A relation: its name and its fields, which have distinct names. -/
structure Relation where
  name : String
  fields : List Field
  fields_nodup : (fields.map (·.name)).Nodup
deriving DecidableEq

namespace Relation

/-- The number of columns. -/
def arity (r : Relation) : Nat := r.fields.length

/-- The field with the given name. -/
def field? (r : Relation) (column : String) : Option Field :=
  r.fields.find? (·.name == column)

/-- The position of a field. -/
def fieldIndex? (r : Relation) (column : String) : Option Nat :=
  r.fields.findIdx? (·.name == column)

/-- The names of the key fields. -/
def keys (r : Relation) : List String :=
  (r.fields.filter (·.isKey)).map (·.name)

/-- The text of a relation: a line for its name and a line for each field. -/
def render (r : Relation) : String :=
  r.name ++ ":\n" ++ String.join (r.fields.map (·.render ++ "\n"))

end Relation

/-- The relations of a profile, which have distinct names. -/
structure Schema where
  relations : List Relation
  relations_nodup : (relations.map (·.name)).Nodup
deriving DecidableEq

namespace Schema

/-- The schema without relations. -/
def empty : Schema := ⟨[], List.nodup_nil⟩

instance : Inhabited Schema := ⟨empty⟩

/-- The names of the relations, in order. -/
def names (s : Schema) : List String := s.relations.map (·.name)

/-- The relation with the given name. -/
def relation? (s : Schema) (name : String) : Option Relation :=
  s.relations.find? (·.name == name)

/-- Whether there is a relation with the given name. -/
def hasRelation (s : Schema) (name : String) : Bool :=
  (s.relation? name).isSome

/-- The relation with the given name, which must exist. -/
def relation (s : Schema) (name : String) : Except QueryError Relation :=
  match s.relation? name with
  | some r => .ok r
  | none => .error (.unknownRelation name)

/-- The names of the key fields of a relation; none when there is no such relation. -/
def keys (s : Schema) (name : String) : List String :=
  ((s.relation? name).map Relation.keys).getD []

/-- The position of a field within its relation. -/
def fieldIndex? (s : Schema) (relation column : String) : Option Nat :=
  (s.relation? relation).bind (·.fieldIndex? column)

/-- Adds a relation at the end. A name that is already taken is the first thing that is refused, a
field defined twice the second. -/
def addRelation (s : Schema) (name : String) (fields : List Field) : Except QueryError Schema :=
  if hname : name ∈ s.names then .error (.schema (.duplicateRelation name))
  else
    match h : firstRepeated? [] (fields.map (·.name)) with
    | some field => .error (.schema (.duplicateField field name))
    | none =>
      .ok ⟨s.relations ++ [⟨name, fields, (nodup_of_firstRepeated? h).1⟩], by
        rw [List.map_append, List.nodup_append]
        refine ⟨s.relations_nodup, by simp, ?_⟩
        intro a ha b hb
        simp only [List.map_cons, List.map_nil, List.mem_singleton] at hb
        subst hb
        exact fun heq => hname (heq ▸ ha)⟩

/-- The text of a schema: its relations with empty lines between them. -/
def render (s : Schema) : String :=
  String.intercalate "\n" (s.relations.map Relation.render)

end Schema

end ProfileQuery
