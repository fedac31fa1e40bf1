import ProfileQuery.Proofs.Query.MaximalMunch
import ProfileQuery.Proofs.Query.RoundTrip

/-!
# Quoted text

A string literal is a text between two quotes in which every backslash takes the next character with
it (`Inside`, `lexeme_quoted_iff`). Its value is written between double quotes, with a backslash in
front of each double quote. Main statement: what is written for the value of a double-quoted literal
is that literal; what is written for the value of a single-quoted one is one double-quoted literal,
with the same value, exactly when no backslash of it takes a double quote
(`scan_literalText_iff`).
-/

namespace ProfileQuery.Query

open Calendar (DateTime)
open Shape
open Text (escape isBlank quoted unescape unquote)

/-! ## Words of quoted text -/

/-- What may stand between two quotes: characters that are neither quotes nor backslashes, and
backslashes that each take the next character with them, which is not a newline. -/
inductive Inside (quote : Char) : List Char → Prop
  | nil : Inside quote []
  | plain {c cs} : isPlain quote c = true → Inside quote cs → Inside quote (c :: cs)
  | escaped {c cs} : c ≠ '\n' → Inside quote cs → Inside quote ('\\' :: c :: cs)

namespace Inside

variable {quote c : Char} {cs w : List Char}

theorem plain_iff (h : c ≠ '\\') : Inside quote (c :: cs) ↔ c ≠ quote ∧ Inside quote cs := by
  constructor
  · rintro (_ | ⟨hplain, hcs⟩ | _)
    · exact ⟨by simpa [isPlain, h] using hplain, hcs⟩
    · exact absurd rfl h
  · rintro ⟨hquote, hcs⟩
    exact .plain (by simp [isPlain, h, hquote]) hcs

theorem escaped_iff : Inside quote ('\\' :: c :: cs) ↔ c ≠ '\n' ∧ Inside quote cs := by
  constructor
  · rintro (_ | ⟨hplain, -⟩ | ⟨hc, hcs⟩)
    · simp [isPlain] at hplain
    · exact ⟨hc, hcs⟩
  · rintro ⟨hc, hcs⟩
    exact .escaped hc hcs

theorem append (hw : ∀ c ∈ w, isPlain quote c = true) (h : Inside quote cs) :
    Inside quote (w ++ cs) := by
  induction w with
  | nil => exact h
  | cons c w ih =>
    obtain ⟨hc, hw⟩ := List.forall_mem_cons.mp hw
    exact .plain hc (ih hw)

/-- The part of quoted text that starts with the first backslash. -/
theorem of_matches (h : (many (escapedShape quote)).Matches w) : Inside quote w := by
  generalize hs : many (escapedShape quote) = s at h
  -- on the repetitions, each of them a backslash with what it takes and plain text
  induction h with
  | done => exact .nil
  | @more s u v _ hu _ _ ih =>
    obtain rfl := Shape.many.inj hs
    obtain ⟨slash, rest, rfl, hslash, hrest⟩ := matches_inOrder_cons_iff.mp hu
    obtain ⟨one, rest, rfl, hone, hrest⟩ := matches_inOrder_cons_iff.mp hrest
    obtain ⟨plain, nothing, rfl, hplain, hnothing⟩ := matches_inOrder_cons_iff.mp hrest
    obtain ⟨d, rfl, hd⟩ := matches_one_iff.mp hone
    rw [matches_char_iff.mp hslash, matches_nothing_iff.mp hnothing]
    simpa using Inside.escaped (by simpa using hd) ((ih rfl).append (matches_run_iff.mp hplain))
  | _ => cases hs

theorem exists_matches (h : Inside quote cs) : ∃ plain rest, cs = plain ++ rest ∧
    (run (isPlain quote)).Matches plain ∧ (many (escapedShape quote)).Matches rest := by
  induction h with
  | nil => exact ⟨[], [], rfl, .run (by simp), .done⟩
  | @plain c cs hc _ ih =>
    obtain ⟨plain, rest, rfl, hplain, hrest⟩ := ih
    refine ⟨c :: plain, rest, rfl, .run ?_, hrest⟩
    exact List.forall_mem_cons.mpr ⟨hc, matches_run_iff.mp hplain⟩
  | @escaped c cs hc _ ih =>
    obtain ⟨plain, rest, rfl, hplain, hrest⟩ := ih
    have hfirst : (escapedShape quote).Matches ('\\' :: c :: plain) := by
      refine matches_inOrder_cons_iff.mpr ⟨['\\'], c :: plain, rfl, matches_char_iff.mpr rfl, ?_⟩
      refine matches_inOrder_cons_iff.mpr ⟨[c], plain, rfl, .one (by simpa using hc), ?_⟩
      exact matches_inOrder_cons_iff.mpr ⟨plain, [], by simp, hplain, .nothing⟩
    exact ⟨[], _, rfl, .run (by simp), .more (by simp) hfirst hrest⟩

end Inside

theorem matches_quotedShape_iff {quote : Char} {w : List Char} :
    (quotedShape quote).Matches w ↔ ∃ inner, w = quote :: inner ++ [quote] ∧ Inside quote inner := by
  constructor
  · intro h
    obtain ⟨start, rest, rfl, hstart, hrest⟩ := matches_inOrder_cons_iff.mp h
    obtain ⟨plain, rest, rfl, hplain, hrest⟩ := matches_inOrder_cons_iff.mp hrest
    obtain ⟨escapes, rest, rfl, hescapes, hrest⟩ := matches_inOrder_cons_iff.mp hrest
    obtain ⟨last, nothing, rfl, hlast, hnothing⟩ := matches_inOrder_cons_iff.mp hrest
    rw [matches_char_iff.mp hstart, matches_char_iff.mp hlast, matches_nothing_iff.mp hnothing]
    refine ⟨plain ++ escapes, by simp, ?_⟩
    exact (Inside.of_matches hescapes).append (matches_run_iff.mp hplain)
  · rintro ⟨inner, rfl, hinner⟩
    obtain ⟨plain, rest, rfl, hplain, hrest⟩ := hinner.exists_matches
    refine matches_inOrder_cons_iff.mpr ⟨[quote], plain ++ rest ++ [quote], rfl,
      matches_char_iff.mpr rfl, ?_⟩
    refine matches_inOrder_cons_iff.mpr ⟨plain, rest ++ [quote], by simp, hplain, ?_⟩
    refine matches_inOrder_cons_iff.mpr ⟨rest, [quote], rfl, hrest, ?_⟩
    exact matches_inOrder_cons_iff.mpr ⟨[quote], [], rfl, matches_char_iff.mpr rfl, .nothing⟩

/-! ## Quoted lexemes -/

/-- The quote around a literal of a kind. -/
def Kind.quote? : Kind → Option Char
  | .doubleQuoted => some '"'
  | .singleQuoted => some '\''
  | _ => none

/-- A string literal starts and ends with its quote. -/
theorem Lexeme.exists_inside {kind : Kind} {literal : List Char} {quote : Char}
    (h : Lexeme kind literal) (hquote : kind.quote? = some quote) :
    ∃ inner, literal = quote :: inner ++ [quote] ∧ Inside quote inner := by
  cases kind with
  | doubleQuoted =>
    obtain rfl := Option.some.inj hquote
    exact matches_quotedShape_iff.mp (h.matches_rule (by decide) rfl)
  | singleQuoted =>
    obtain rfl := Option.some.inj hquote
    exact matches_quotedShape_iff.mp (h.matches_rule (by decide) rfl)
  | _ => cases hquote

theorem lexicon_split_doubleQuoted :
    lexicon = lexicon.take 11 ++ (.doubleQuoted, quotedShape '"') :: lexicon.drop 12 :=
  rfl

/-- A word of the shape is taken whole, since no cut of the shape is behind a longer one. -/
theorem lexeme_doubleQuoted {inner : List Char} (h : Inside '"' inner) :
    Lexeme .doubleQuoted ('"' :: inner ++ ['"']) := by
  have hmatches := matches_quotedShape_iff.mpr ⟨inner, rfl, h⟩
  have hrule : ((.doubleQuoted, quotedShape '"') : Kind × Shape) ∈ lexicon := by
    rw [lexicon_split_doubleQuoted]
    simp
  obtain ⟨u, more, hu, hcut, -, hle⟩ := exists_taken hrule hmatches (List.prefix_refl _)
  have hlength : ('"' :: inner ++ ['"']).length = u.length + more.length := by
    rw [hu, List.length_append]
  have hmore : more = [] := List.eq_nil_of_length_eq_zero (by omega)
  have hlen : u.length = ('"' :: inner ++ ['"']).length := by omega
  refine lexeme_of_rule lexicon_split_doubleQuoted ?_ ?_ ⟨'"', inner ++ ['"'], rfl, by decide⟩
  · rw [hcut, hmore, hlen]
  · -- none of the rules before it starts with a quote
    intro other hother hother'
    have hall : (lexicon.take 11).all (fun rule => !rule.2.starts '"') = true := by decide
    have hstarts := List.all_eq_true.mp hall other hother
    rw [Bool.not_eq_true', hother'.starts] at hstarts
    cases hstarts

/-! ## Texts of one token -/

/-- A lexeme is the one token of its text. -/
theorem Lexeme.scan {kind : Kind} {text : String} (h : Lexeme kind text.toList) :
    scan text = [⟨kind, text, .start⟩, .atEnd (Position.start.advance text.toList)] := by
  obtain ⟨c, rest, htext, hblank⟩ := h.start
  have htake : text.toList.takeWhile isBlank = [] := by
    rw [htext, List.takeWhile_cons_of_neg (by simp [hblank])]
  have hdrop : text.toList.dropWhile isBlank = text.toList ++ [] := by
    rw [List.append_nil, htext, List.dropWhile_cons_of_neg (by simp [hblank])]
  have hfirst := h.whole
  rw [← List.append_nil text.toList] at hfirst
  rw [Query.scan, scanFrom_token hdrop h.ne_nil (by simpa using hfirst), htake, scanFrom_blanks rfl]
  simp [Position.advance]

/-- A text between two characters that are not blank has one token only if it is a lexeme. -/
theorem lexeme_of_scan {kind : Kind} {text literal : String} {first last : Char}
    {inner : List Char} {place behind : Position} (htext : text.toList = first :: inner ++ [last])
    (hfirst : isBlank first = false) (hlast : isBlank last = false)
    (h : scan text = [⟨kind, literal, place⟩, .atEnd behind]) : Lexeme kind text.toList := by
  have hdrop : text.toList.dropWhile isBlank = first :: (inner ++ [last]) := by
    rw [htext, List.cons_append, List.dropWhile_cons_of_neg (by simp [hfirst])]
  obtain ⟨kind', front, more, hfront, htoken, hlexeme⟩ := exists_token hdrop
  rw [scan, scanFrom_token hfront hlexeme.ne_nil htoken] at h
  obtain ⟨hhead, hmore⟩ := List.cons.inj h
  obtain rfl : kind' = kind := congrArg Token.kind hhead
  -- what is behind the token is blank, and the text does not end in a blank
  have hblank : more.dropWhile isBlank = [] := by
    cases hrest : more.dropWhile isBlank with
    | nil => rfl
    | cons c rest =>
      obtain ⟨kind, literal, more', hfront', htoken', hlexeme'⟩ := exists_token hrest
      rw [scanFrom_token hfront' hlexeme'.ne_nil htoken'] at hmore
      obtain ⟨hhead', -⟩ := List.cons.inj hmore
      exact absurd (congrArg Token.kind hhead') hlexeme'.kind_ne_endOfInput
  have hnil : more = [] := by
    rcases List.eq_nil_or_concat more with hnil | ⟨more', d, rfl⟩
    · exact hnil
    · rw [hdrop, List.concat_eq_append, ← List.cons_append, ← List.append_assoc] at hfront
      obtain rfl := List.singleton_inj.mp (List.append_inj' hfront rfl).2
      have := List.dropWhile_eq_nil_iff.mp hblank last (by simp)
      rw [hlast] at this
      cases this
  rw [htext, List.cons_append, ← hdrop, hfront, hnil, List.append_nil]
  exact hlexeme

/-! ## Escapes -/

/-- Whether a backslash takes the character with it. -/
def escapes (c : Char) : List Char → Bool
  | '\\' :: d :: cs => d == c || escapes c cs
  | _ :: cs => escapes c cs
  | [] => false

section

variable {c quote : Char} {cs inner : List Char}

theorem escapes_plain (h : c ≠ '\\') (d : Char) : escapes d (c :: cs) = escapes d cs := by
  rw [escapes]
  rintro e cs' rfl -
  exact h rfl

theorem unescape_plain (h : c ≠ '\\') : unescape quote (c :: cs) = c :: unescape quote cs := by
  cases cs with
  | nil => rfl
  | cons d cs => rw [unescape, if_neg (fun hc => h hc.1)]

/-- A backslash that does not stand before a quote is kept. -/
theorem unescape_backslash (h : cs.head? ≠ some quote) :
    unescape quote ('\\' :: cs) = '\\' :: unescape quote cs := by
  cases cs with
  | nil => rfl
  | cons d cs => rw [unescape, if_neg (by simpa using h)]

theorem unescape_quote : unescape quote ('\\' :: quote :: cs) = quote :: unescape quote cs := by
  rw [unescape, if_pos ⟨rfl, rfl⟩]

theorem escape_quote : escape quote (quote :: cs) = '\\' :: quote :: escape quote cs :=
  if_pos rfl

theorem escape_of_ne (h : c ≠ quote) : escape quote (c :: cs) = c :: escape quote cs :=
  if_neg h

/-- Text that was escaped is unescaped to itself. -/
theorem unescape_escape (hquote : quote ≠ '\\') (cs : List Char) :
    unescape quote (escape quote cs) = cs := by
  induction cs with
  | nil => rfl
  | cons c cs ih =>
    by_cases hc : c = quote
    · rw [hc, escape_quote, unescape_quote, ih]
    · rw [escape_of_ne hc]
      by_cases hslash : c = '\\'
      · rw [hslash, unescape_backslash, ih]
        -- what was escaped does not start with a quote
        cases cs with
        | nil => simp [escape]
        | cons d cs =>
          by_cases hd : d = quote
          · rw [hd, escape_quote]
            simpa using hquote.symm
          · rw [escape_of_ne hd]
            simpa using hd
      · rw [unescape_plain hslash, ih]

/-- Quoted text does not start with the quote. -/
theorem Inside.head?_ne (h : Inside quote cs) (hquote : quote ≠ '\\') : cs.head? ≠ some quote := by
  cases h with
  | nil => simp
  | plain hc _ =>
    rw [isPlain, Bool.and_eq_true] at hc
    simpa using hc.1
  | escaped _ _ => simpa using hquote.symm

/-- An escaped character other than the quote keeps its backslash. -/
theorem Inside.unescape_escaped (h : Inside quote cs) (hquote : quote ≠ '\\') (hc : c ≠ quote) :
    unescape quote ('\\' :: c :: cs) = '\\' :: c :: unescape quote cs := by
  rw [unescape_backslash (by simpa using hc)]
  by_cases hslash : c = '\\'
  · rw [hslash, unescape_backslash (h.head?_ne hquote)]
  · rw [unescape_plain hslash]

/-- Text between double quotes is escaped again as it was. -/
theorem Inside.escape_unescape (h : Inside '"' inner) : escape '"' (unescape '"' inner) = inner := by
  induction h with
  | nil => rfl
  | @plain c cs hc _ ih =>
    obtain ⟨hquote, hslash⟩ : c ≠ '"' ∧ c ≠ '\\' := by simpa [isPlain] using hc
    rw [unescape_plain hslash, escape_of_ne hquote, ih]
  | @escaped c cs _ hcs ih =>
    by_cases hquote : c = '"'
    · rw [hquote, unescape_quote, escape_quote, ih]
    · rw [hcs.unescape_escaped (by decide) hquote, escape_of_ne (by decide), escape_of_ne hquote, ih]

/-- Text between single quotes can stand between double quotes, once these are escaped, exactly when
no backslash of it takes a double quote. -/
theorem Inside.escape_iff (h : Inside '\'' inner) :
    Inside '"' (escape '"' (unescape '\'' inner)) ↔ escapes '"' inner = false := by
  induction h with
  | nil => exact ⟨fun _ => rfl, fun _ => .nil⟩
  | @plain c cs hc _ ih =>
    obtain ⟨-, hslash⟩ : c ≠ '\'' ∧ c ≠ '\\' := by simpa [isPlain] using hc
    rw [unescape_plain hslash, escapes_plain hslash, ← ih]
    by_cases hquote : c = '"'
    · rw [hquote, escape_quote, Inside.escaped_iff]
      exact and_iff_right (by decide)
    · rw [escape_of_ne hquote, Inside.plain_iff hslash]
      exact and_iff_right hquote
  | @escaped c cs hc hcs ih =>
    by_cases hsingle : c = '\''
    · rw [hsingle, unescape_quote, escape_of_ne (by decide), Inside.plain_iff (by decide), ih]
      simp [escapes]
    · rw [hcs.unescape_escaped (by decide) hsingle, escape_of_ne (by decide)]
      by_cases hquote : c = '"'
      · -- the backslash takes the one that is put before the quote, and the quote ends the text
        rw [hquote, escape_quote, Inside.escaped_iff, Inside.plain_iff (by decide)]
        simp [escapes]
      · rw [escape_of_ne hquote, Inside.escaped_iff, ih]
        simp [escapes, hquote, hc]

end

/-! ## Values of string literals -/

theorem toList_literalText (v : String) :
    (Condition.literalText (.text v)).toList = '"' :: escape '"' v.toList ++ ['"'] :=
  String.toList_ofList

/-- The slice between the quotes, unescaped. -/
theorem unquote_quoted {quote : Char} (inner : List Char) :
    unquote quote (quote :: inner ++ [quote]) = unescape quote inner := by
  rw [unquote, List.cons_append, List.tail_cons, List.dropLast_concat]

theorem eq_of_quote? {kind : Kind} {quote : Char} (h : kind.quote? = some quote) :
    quote = '"' ∨ quote = '\'' := by
  cases kind with
  | doubleQuoted => exact .inl (Option.some.inj h).symm
  | singleQuoted => exact .inr (Option.some.inj h).symm
  | _ => cases h

theorem literalValue_quoted {t : Token} {quote : Char} (h : t.kind.quote? = some quote)
    (now : DateTime) :
    literalValue now t = .ok (.text (String.ofList (unquote quote t.literal.toList))) := by
  obtain ⟨kind, literal, place⟩ := t
  cases kind with
  | doubleQuoted =>
    obtain rfl := Option.some.inj h
    rfl
  | singleQuoted =>
    obtain rfl := Option.some.inj h
    rfl
  | _ => cases h

/-- A value is written as one double-quoted literal exactly when what stands between the quotes may
stand there; the literal then has that value. -/
theorem scan_literalText {v : String} :
    (∃ literal place behind, scan (Condition.literalText (.text v)) =
        [⟨.doubleQuoted, literal, place⟩, .atEnd behind] ∧
        unquote '"' literal.toList = v.toList) ↔
      Inside '"' (escape '"' v.toList) := by
  constructor
  · rintro ⟨literal, place, behind, hscan, -⟩
    have hlexeme := lexeme_of_scan (toList_literalText v) (by decide) (by decide) hscan
    obtain ⟨inner, hinner, hinside⟩ := hlexeme.exists_inside rfl
    rw [toList_literalText, List.cons_append, List.cons_append] at hinner
    obtain ⟨rfl, -⟩ := List.append_inj' (List.cons.inj hinner).2 rfl
    exact hinside
  · intro hinside
    have hlexeme := lexeme_doubleQuoted hinside
    rw [← toList_literalText] at hlexeme
    refine ⟨_, _, _, hlexeme.scan, ?_⟩
    rw [toList_literalText, unquote_quoted, unescape_escape (by decide)]

/-- A string literal of a scan stands between its quotes, and its value is what is between them,
unescaped. The value of a double-quoted literal is written as that literal. What is written for a
value is one double-quoted literal, which has the value again, exactly when the literal that the
value came from was double-quoted or no backslash of it takes a double quote. -/
theorem scan_literalText_iff {text : String} {t : Token} {quote : Char} (ht : t ∈ scan text)
    (hquote : t.kind.quote? = some quote) (now : DateTime) :
    ∃ inner v, t.literal.toList = quote :: inner ++ [quote] ∧
      v.toList = unescape quote inner ∧ literalValue now t = .ok (.text v) ∧
      (quote = '"' → Condition.literalText (.text v) = t.literal) ∧
      ((∃ literal place behind, scan (Condition.literalText (.text v)) =
          [⟨.doubleQuoted, literal, place⟩, .atEnd behind] ∧
          unquote '"' literal.toList = v.toList) ↔
        quote = '"' ∨ escapes '"' inner = false) := by
  have hkind : t.kind ≠ .endOfInput := by
    intro hkind
    rw [hkind] at hquote
    cases hquote
  obtain ⟨inner, hliteral, hinside⟩ := (lexeme_of_mem_scan ht hkind).exists_inside hquote
  have hvalue := literalValue_quoted hquote now
  rw [hliteral, unquote_quoted] at hvalue
  refine ⟨inner, _, hliteral, String.toList_ofList, hvalue, ?_, ?_⟩
  · rintro rfl
    rw [← String.toList_inj, toList_literalText, String.toList_ofList, hinside.escape_unescape,
      hliteral]
  · rw [scan_literalText, String.toList_ofList]
    rcases eq_of_quote? hquote with rfl | rfl
    · rw [hinside.escape_unescape]
      exact iff_of_true hinside (.inl rfl)
    · rw [hinside.escape_iff]
      exact (or_iff_right (by decide)).symm

/-- A single-quoted literal in which backslashes take a letter and a single quote, but no double
quote. -/
theorem scan_literalText_pattern :
    (⟨.singleQuoted, "'\\d\"\\''", .start⟩ : Token) ∈ scan "'\\d\"\\''" ∧
      ∃ literal place behind, scan (Condition.literalText (.text "\\d\"'")) =
          [⟨.doubleQuoted, literal, place⟩, .atEnd behind] ∧
          unquote '"' literal.toList = "\\d\"'".toList := by
  have hscan : (⟨.singleQuoted, "'\\d\"\\''", .start⟩ : Token) ∈ scan "'\\d\"\\''" := by
    have : scan "'\\d\"\\''" = [⟨.singleQuoted, "'\\d\"\\''", .start⟩, .atEnd ⟨1, 8⟩] := by cbv
    rw [this]
    exact List.mem_cons_self
  obtain ⟨inner, v, hliteral, hv, -, -, hiff⟩ := scan_literalText_iff hscan rfl leapDay
  obtain rfl : inner = "\\d\"\\'".toList := by
    have := congrArg (fun cs => cs.tail.dropLast) hliteral
    simpa using this.symm
  obtain rfl : v = "\\d\"'" := String.toList_inj.mp (hv.trans (by cbv))
  exact ⟨hscan, hiff.mpr (.inr (by cbv))⟩

/-- Here a backslash takes a double quote: what is written for the value is read as a shorter literal
and a character that starts no token. -/
theorem scan_literalText_broken :
    scan "'\\\"'" = [⟨.singleQuoted, "'\\\"'", .start⟩, .atEnd ⟨1, 5⟩] ∧
      literalValue leapDay ⟨.singleQuoted, "'\\\"'", .start⟩ = .ok (.text "\\\"") ∧
      Condition.literalText (.text "\\\"") = "\"\\\\\"\"" ∧
      scan "\"\\\\\"\"" = [⟨.doubleQuoted, "\"\\\\\"", .start⟩, ⟨.unexpected, "\"", ⟨1, 5⟩⟩,
        .atEnd ⟨1, 6⟩] ∧
      ¬ ∃ literal place behind, scan (Condition.literalText (.text "\\\"")) =
        [⟨.doubleQuoted, literal, place⟩, .atEnd behind] := by
  have htext : Condition.literalText (.text "\\\"") = "\"\\\\\"\"" := by cbv
  have hscan : scan "\"\\\\\"\"" = [⟨.doubleQuoted, "\"\\\\\"", .start⟩,
    ⟨.unexpected, "\"", ⟨1, 5⟩⟩, .atEnd ⟨1, 6⟩] := by cbv
  refine ⟨by cbv, by cbv, htext, hscan, ?_⟩
  rintro ⟨literal, place, behind, h⟩
  rw [htext, hscan] at h
  cases h

end ProfileQuery.Query
