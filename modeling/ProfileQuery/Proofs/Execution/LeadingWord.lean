import ProfileQuery.Execution
import ProfileQuery.Proofs.Query.LeadingWord
import ProfileQuery.Proofs.Query.RoundTrip

/-!
# Queries with and without their leading word

A query and its body are read alike and answered alike: with the same rows wherever the moment plays
no part.
-/

namespace ProfileQuery

open Calendar (DateTime)
open Query (ClockAlike IsLeadingWord ReadAlike Select scan)
open Text (isBlank)

/-- Readers that agree have the same answers. -/
theorem Database.answer_eq_ok_iff {x y : Except Query.SyntaxError Select} (h : ReadAlike Eq x y)
    (db : Database) (mode : JoinMode) (s : Selection) :
    db.answer mode x = .ok s ↔ db.answer mode y = .ok s := by
  cases h with
  | error => exact iff_of_false nofun nofun
  | ok heq => rw [heq]

/-- A query is read exactly when its body is, as the same query but for the moments that clock words
stand for; or both fail with the same error, but for the places in it and the text that it quotes.
At one moment, and without clock words at any two, the queries are equal and have the same answers.
-/
theorem Database.query_eq_ok_iff_select {word blanks body : String}
    (hword : IsLeadingWord word.toList) (hne : blanks ≠ "")
    (hblanks : ∀ c ∈ blanks.toList, isBlank c = true) (now now' : DateTime) :
    ReadAlike (Select.Alike (ClockAlike now now')) (Select.ofText now (word ++ blanks ++ body))
      (Select.ofBody now' body) ∧
    ((now = now' ∨ ∀ t ∈ scan body, t.kind ≠ .clockWord) →
      ReadAlike Eq (Select.ofText now (word ++ blanks ++ body)) (Select.ofBody now' body) ∧
      ∀ (db : Database) (s : Selection),
        db.query now (word ++ blanks ++ body) = .ok s ↔ db.select now' body .inner = .ok s) := by
  have hlexeme : ∀ t ∈ scan body, t.kind ≠ .endOfInput → Query.Lexeme t.kind t.literal.toList :=
    fun t => Query.lexeme_of_mem_scan
  refine ⟨?_, fun hsteady => ?_⟩
  · refine Query.ofText_alike hword hne hblanks fun t t' ht' hsame => ?_
    exact Query.Token.alike_of_spelling hsame (hlexeme t' ht') now now'
  · have halike := Query.ofText_alike hword hne hblanks fun t t' ht' hsame =>
      Query.Token.alike_eq_of_spelling hsame (hlexeme t' ht') (hsteady.imp_right fun h => h t' ht')
    have hequal := halike.mono fun _ _ => Select.Alike.eq
    exact ⟨hequal, fun db s => db.answer_eq_ok_iff hequal .inner s⟩

/-- The body may start with a date, which the word in front of it has no part in. -/
theorem Database.query_eq_ok_iff_select_date :
    IsLeadingWord "ReTrIeVe".toList ∧ "\n\t" ≠ "" ∧ (∀ c ∈ "\n\t".toList, isBlank c = true) ∧
    ReadAlike (Select.Alike (ClockAlike Query.leapDay Query.leapDay))
      (Select.ofText Query.leapDay ("ReTrIeVe" ++ "\n\t" ++ "10-12-1999 (12:30) where a < now"))
      (Select.ofBody Query.leapDay "10-12-1999 (12:30) where a < now") ∧
    ReadAlike Eq
      (Select.ofText Query.leapDay ("ReTrIeVe" ++ "\n\t" ++ "10-12-1999 (12:30) where a < now"))
      (Select.ofBody Query.leapDay "10-12-1999 (12:30) where a < now") ∧
    ∀ (db : Database) (s : Selection),
      db.query Query.leapDay ("ReTrIeVe" ++ "\n\t" ++ "10-12-1999 (12:30) where a < now") = .ok s ↔
        db.select Query.leapDay "10-12-1999 (12:30) where a < now" .inner = .ok s := by
  have hword : IsLeadingWord "ReTrIeVe".toList := ⟨"retrieve", by decide, by decide⟩
  have hne : "\n\t" ≠ "" := by simp
  have hblanks : ∀ c ∈ "\n\t".toList, isBlank c = true := by simp [isBlank]
  exact ⟨hword, hne, hblanks, (query_eq_ok_iff_select hword hne hblanks _ _).1,
    (query_eq_ok_iff_select hword hne hblanks _ _).2 (.inl rfl)⟩

end ProfileQuery
