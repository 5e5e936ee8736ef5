/-
What a Python file exports if it assigns to `__all__`. The assignment stands at
the start of a line and lists names in quotes. Its search finds it and nothing
else: not in the texts around it, because no line there starts with `__all__`
(`passesOver_front`, `passesOver_rest`), and no further than its closing
bracket, because neither a name nor what stands between names holds one
(`AllAssignment.reads`). Within the brackets, the search for literals finds the
names one by one (`AllAssignment.yields`).

The definitions around the assignment are not looked at.
-/
import SourceAtlas.Export
import SourceAtlas.Proofs.Pattern.Lines

namespace SourceAtlas.Export

open Pattern
open Text (Blank Enumerated)

variable {behind : Option Char} {c : Char} {t u rest : Text}

-- ============================================================ assignments

/-- A name in quotes. -/
structure QuotedName where
  name : Text
  nonempty : name ≠ []
  word : ∀ c ∈ name, Text.isWord c = true
  quote : Char
  isQuote : quote ∈ quotes

/-- How the name is written. -/
def QuotedName.text (q : QuotedName) : Text := [q.quote] ++ q.name ++ [q.quote]

/-- What a list of names stands in. -/
inductive Bracket where
  | square
  | round

/-- The bracket that opens. -/
def Bracket.opening : Bracket → Char
  | square => '['
  | round => '('

/-- The bracket that closes. -/
def Bracket.closing : Bracket → Char
  | square => ']'
  | round => ')'

/-- An assignment of names to `__all__`, as it is written. -/
structure AllAssignment where
  names : List QuotedName
  before : Text
  blank_before : Blank before
  annotation : Option Text
  plain : ∀ note ∈ annotation, ∀ c ∈ note, c ≠ '=' ∧ c ≠ '\n'
  adds : Bool
  after : Text
  blank_after : Blank after
  bracket : Bracket
  body : Text
  enumerated : Enumerated Blank (names.map QuotedName.text) body

namespace AllAssignment

/-- What stands before the sign `=`. -/
def sign (a : AllAssignment) : Text :=
  (match a.annotation with
    | none => []
    | some note => ':' :: note)
  ++ if a.adds then ['+'] else []

/-- How the assignment is written. -/
def text (a : AllAssignment) : Text :=
  "__all__".toList ++ a.before ++ a.sign ++ ['='] ++ a.after
    ++ [a.bracket.opening] ++ a.body ++ [a.bracket.closing]

end AllAssignment

-- =============================================================== literals

/-- A character of a literal between two quotes `q`, with the backslash before
it if there is one. -/
def literalPart (q : Char) : Pattern :=
  alt (only '\x5c' ++ char inLine) (char (except [q, '\n']))

theorem misses_escape (hc : c ≠ '\x5c') :
    (only '\x5c' ++ char inLine).Misses behind (c :: rest) :=
  Misses.append (misses_char (by simpa using hc))

/-- A word is read up to its closing quote. -/
theorem readsOften_literalPart {q : Char} {name : Text} (hq : q ∈ quotes)
    (hname : ∀ c ∈ name, Text.isWord c = true) :
    (literalPart q).ReadsOften behind name ([q] ++ rest) := by
  have hquotes : ∀ q ∈ quotes, q ≠ '\x5c' ∧ Text.isWord q = false := by decide
  induction name generalizing behind with
  | nil =>
      have hend : (char (except [q, '\n'])).Misses behind ([q] ++ rest) :=
        misses_char (by simp [except])
      exact ((misses_escape (hquotes q hq).1).alt hend).readsOften
  | cons c name ih =>
      obtain ⟨hc, hname⟩ := List.forall_mem_cons.mp hname
      have hne {d : Char} (hd : Text.isWord d = false) : c ≠ d := by
        rintro rfl
        rw [hc] at hd
        cases hd
      have hplain : except [q, '\n'] c = true := by
        simpa [except] using ⟨hne (hquotes q hq).2, hne (by decide)⟩
      have hescape :
          (only '\x5c' ++ char inLine).Misses behind
            ([c] ++ (name ++ ([q] ++ rest))) :=
        misses_escape (hne (by decide))
      exact ReadsOften.cons (hescape.alt_reads (reads_char hplain))
        (by simp) (ih hname)

/-- A name is read between its quotes. -/
theorem QuotedName.reads (q : QuotedName) :
    (escapedLiteral .name).Reads behind q.text rest [(.name, q.name)] := by
  have hquote (behind : Option Char) (rest : Text) :
      (only q.quote).Reads behind [q.quote] rest [] :=
    reads_char (beq_self_eq_true q.quote)
  have hname (behind : Option Char) :
      (group .name (star (literalPart q.quote))).Reads behind q.name
        ([q.quote] ++ rest) [(.name, q.name)] :=
    (readsOften_literalPart q.isQuote q.word).star.group
  have hall :
      (only q.quote ++ group .name (star (literalPart q.quote))
        ++ only q.quote).Reads behind q.text rest [(.name, q.name)] :=
    ((hquote _ _).append_right (hname _)).append_left (hquote _ _)
  have hcases := q.isQuote
  simp only [quotes, List.mem_cons, List.not_mem_nil, or_false] at hcases
  rcases hcases with hsingle | hdouble
  · rw [hsingle] at hall
    exact hall.alt
  · have hmisses : (only '\x27').Misses behind (q.text ++ rest) :=
      misses_char (by simp [QuotedName.text, hdouble])
    rw [hdouble] at hall
    exact hmisses.append.append.alt_reads hall

/-- No literal is found without a quote. -/
theorem passesOver_escapedLiteral (h : ∀ c ∈ u, c ∉ quotes) :
    (escapedLiteral .name).PassesOver behind u rest := by
  refine passesOver_of_misses fun v c w huvw => ?_
  have hc : c ∉ quotes := h c (by rw [huvw]; simp)
  have hone {q : Char} (hq : q ∈ quotes) (behind : Option Char) :
      (only q ++ group .name (star (literalPart q)) ++ only q).Misses behind
        (c :: w ++ rest) := by
    refine Misses.append (Misses.append (misses_char ?_))
    simpa using fun h : c = q => hc (h ▸ hq)
  exact (hone (by decide) _).alt (hone (by decide) _)

/-- The literals in the brackets are the names. -/
theorem AllAssignment.yields (a : AllAssignment) :
    (escapedLiteral .name).Yields (fun m => [m.get .name]) behind a.body rest
      fun _ => a.names.map QuotedName.name := by
  have hgap (g : Text) (hg : Blank g) (behind : Option Char) (rest : Text) :
      (escapedLiteral .name).PassesOver behind g rest := by
    have hquotes : ∀ q ∈ quotes, Text.isBlank q = false := by decide
    refine passesOver_escapedLiteral fun c hc hquote => ?_
    have hblank := hg c hc
    rw [hquotes c hquote] at hblank
    cases hblank
  have hname (q : QuotedName) (behind : Option Char) (rest : Text) :
      (escapedLiteral .name).Yields (fun m => [m.get .name]) behind q.text rest
        fun _ => [q.name] := by
    refine q.reads.yields (by simp [QuotedName.text]) fun m hparts => ?_
    rw [hparts]
    rfl
  have hcomma (behind : Option Char) (rest : Text) :
      (escapedLiteral .name).PassesOver behind [','] rest :=
    passesOver_escapedLiteral (by decide)
  rw [List.map_eq_flatMap]
  exact yields_of_enumerated a.enumerated hgap hcomma
    (fun q _ => hname q) behind

-- ========================================================== the assignment

/-- An assignment starts with the name of the list. -/
theorem misses_allAssignment (h : ¬ "__all__".toList <+: t) :
    allAssignment.Misses behind t := by
  have hword : (anchor .lineStart ++ lit "__all__").Misses behind t :=
    misses_lineStart_lit h
  exact hword.append.append.append.append.append.append.append.append

/-- A line that does not start with it is none. -/
theorem misses_allAssignment_line {line : Text}
    (h : ¬ "__all__".toList <+: line) (hrest : EndsLine rest) :
    allAssignment.Misses behind (line ++ rest) :=
  misses_allAssignment fun hword =>
    h (prefix_of_endsLine (by decide) hrest hword)

/-- Assignments are found at line starts only. -/
theorem lineBound_allAssignment : LineBound allAssignment :=
  ((((((((lineBound_lineStart.append _).append _).append _).append _).append
    _).append _).append _).append _).append _

/-- The annotation goes up to the sign `=`, a plus in front of it included. -/
theorem AllAssignment.exists_reads (a : AllAssignment) :
    ∃ note plus, a.sign = note ++ plus
      ∧ (∀ behind rest,
        (opt (lit ":" ++ many (except ['=', '\n']))).Reads behind note
          (plus ++ (['='] ++ rest)) [])
      ∧ (∀ behind rest,
        (opt (lit "+")).Reads behind plus (['='] ++ rest) []) := by
  have hplus (behind : Option Char) (rest : Text) :
      (opt (lit "+")).Reads behind [] (['='] ++ rest) [] :=
    Misses.opt_reads (misses_lit (by simp))
  unfold sign
  cases hannotation : a.annotation with
  | none =>
      refine ⟨[], if a.adds then ['+'] else [], rfl,
        fun behind rest => ?_, fun behind rest => ?_⟩
      · refine Misses.opt_reads (Misses.append (misses_lit ?_))
        cases a.adds <;> simp
      · cases a.adds with
        | false => exact hplus behind rest
        | true => exact (reads_lit behind ['+'] _).alt
  | some note =>
      refine ⟨':' :: note ++ (if a.adds then ['+'] else []), [], by simp,
        fun behind rest => ?_, hplus⟩
      have hnote :
          ∀ c ∈ note ++ (if a.adds then ['+'] else []),
            except ['=', '\n'] c = true := by
        refine List.forall_mem_append.mpr ⟨fun c hc => ?_, ?_⟩
        · simpa [except] using a.plain note hannotation c hc
        · cases a.adds <;> decide
      have hend :
          ∀ c ∈ (['='] ++ rest).head?, except ['=', '\n'] c = false := by
        simp [except]
      exact ((reads_lit behind [':'] _).append_left (reads_many hnote hend)).alt

/-- No blank stands before the equals sign or the plus. -/
theorem AllAssignment.head?_sign (a : AllAssignment) (rest : Text) :
    ∀ c ∈ (a.sign ++ (['='] ++ rest)).head?, Text.isBlank c = false := by
  have hsigns : ∀ c ∈ [':', '+', '='], Text.isBlank c = false := by decide
  have hhead :
      ∃ c ∈ [':', '+', '='], (a.sign ++ (['='] ++ rest)).head? = some c := by
    unfold sign
    cases a.annotation with
    | some note => exact ⟨':', by decide, rfl⟩
    | none =>
        cases a.adds with
        | true => exact ⟨'+', by decide, rfl⟩
        | false => exact ⟨'=', by decide, rfl⟩
  obtain ⟨c, hc, hhead⟩ := hhead
  rw [hhead]
  simpa using hsigns c hc

theorem AllAssignment.not_mem_body (a : AllAssignment) (hc : c ∈ [']', ')']) :
    c ∉ a.body := by
  have hsigns : ∀ c ∈ [']', ')'], Text.isBlank c = false ∧ c ≠ ',' ∧ c ∉ quotes
    ∧ Text.isWord c = false := by decide
  obtain ⟨hblank, hcomma, hquote, hword⟩ := hsigns c hc
  refine a.enumerated.not_mem
    (fun _ hgap => Text.not_mem_of_blank hgap hblank) hcomma ?_
  intro item hitem hmem
  obtain ⟨q, -, rfl⟩ := List.mem_map.mp hitem
  have hne : c ≠ q.quote := fun h => hquote (h ▸ q.isQuote)
  simp only [QuotedName.text, List.mem_append, List.mem_singleton, hne,
    false_or, or_false] at hmem
  rw [q.word c hmem] at hword
  cases hword

/-- The search reads the assignment up to its closing bracket. -/
theorem AllAssignment.reads (a : AllAssignment) (hbehind : StartsLine behind) :
    allAssignment.Reads behind a.text rest [(.body, a.body)] := by
  obtain ⟨note, plus, hsign, hnote, hplus⟩ := a.exists_reads
  have hopening : among ['[', '('] a.bracket.opening = true := by
    cases a.bracket <;> decide
  have hclosing : among [']', ')'] a.bracket.closing = true := by
    cases a.bracket <;> decide
  have hopen :
      ∀ c ∈ ([a.bracket.opening]
        ++ (a.body ++ ([a.bracket.closing] ++ rest))).head?,
        Text.isBlank c = false := by
    cases a.bracket <;> simpa using (by decide)
  have hbody : ∀ c ∈ a.body, except [']', ')'] c = true := by
    intro c hc
    simpa [except] using fun h => a.not_mem_body h hc
  have hend :
      ∀ c ∈ ([a.bracket.closing] ++ rest).head?,
        except [']', ')'] c = false := by
    cases a.bracket <;> simp [Bracket.closing, except]
  have hhead :=
    a.head?_sign (a.after
      ++ ([a.bracket.opening] ++ (a.body ++ ([a.bracket.closing] ++ rest))))
  rw [hsign, List.append_assoc] at hhead
  -- From here on the parts of the pattern are read one after another, each up
  -- to the character that ends it.
  have hword :=
    (reads_anchor (startsLine_iff.mp hbehind)).append_left
      (reads_lit behind "__all__".toList
        (a.before ++ (note ++ (plus ++ (['='] ++ (a.after
          ++ ([a.bracket.opening]
            ++ (a.body ++ ([a.bracket.closing] ++ rest)))))))))
  have hsigned :=
    ((hword.append_left (reads_many a.blank_before hhead)).append_left
      (hnote _ _)).append_left (hplus _ _)
  have hequals := (hsigned.append_left (reads_lit _ ['='] _)).append_left
    (reads_many a.blank_after hopen)
  have hlisted (behind : Option Char) :
      (group .body (many (except [']', ')']))).Reads behind a.body
        ([a.bracket.closing] ++ rest) [(.body, a.body)] :=
    (reads_many hbody hend).group
  have hall :=
    ((hequals.append_left (reads_char hopening)).append_right
      (hlisted _)).append_left (reads_char hclosing)
  unfold text
  rw [hsign]
  simp only [List.nil_append, List.append_assoc] at hall ⊢
  exact hall

theorem AllAssignment.text_ne_nil (a : AllAssignment) : a.text ≠ [] :=
  List.append_ne_nil_of_right_ne_nil _ (List.cons_ne_nil _ [])

/-- An assignment ends with its closing bracket. -/
theorem AllAssignment.getLast?_text (a : AllAssignment) :
    a.text.getLast? = some a.bracket.closing :=
  List.getLast?_concat

/-- Around the assignment the search finds nothing, if no line there starts
with its target. -/
theorem passesOver_front {front : Text} (hstart : StartsLine front.getLast?)
    (hlines : ∀ line ∈ Text.split '\n' front, ¬ "__all__".toList <+: line) :
    allAssignment.PassesOver none front rest := by
  rcases List.eq_nil_or_concat front with rfl | ⟨front, c, rfl⟩
  · exact passesOver_nil allAssignment none rest
  · have hc : c = '\n' := hstart c (by simp)
    rw [List.concat_eq_append, hc, Text.split_append_cons] at hlines
    rw [List.concat_eq_append, hc]
    have hfront : allAssignment.MissesIn none front (['\n'] ++ rest) := by
      refine lineBound_allAssignment.missesIn_of_lines
        (fun _ _ _ h => misses_allAssignment_line h (by simp [EndsLine]))
        (fun _ _ h => misses_allAssignment_line h (by simp [EndsLine])) ?_ ?_
      · exact fun _ line hline =>
          hlines line (List.mem_append_left _ (List.mem_of_mem_head? hline))
      · exact fun line hline =>
          hlines line (List.mem_append_left _ (List.mem_of_mem_tail hline))
    have hfeed (behind : Option Char) :
        allAssignment.PassesOver behind ['\n'] rest :=
      (misses_allAssignment (by simp)).passesOver
    exact (passesOver_of_misses hfront).append (hfeed _)

theorem passesOver_rest (hbehind : ¬ StartsLine behind)
    (hlines : ∀ line ∈ (Text.split '\n' rest).tail,
      ¬ "__all__".toList <+: line) :
    allAssignment.PassesOver behind rest [] := by
  refine passesOver_of_misses (lineBound_allAssignment.missesIn_of_lines
    (fun _ _ _ h => misses_allAssignment_line h (by simp [EndsLine]))
    (fun _ _ h => misses_allAssignment_line h (by simp [EndsLine])) ?_ hlines)
  exact fun hstart => absurd hstart hbehind

/-- The names that `__all__` lists are what a file exports, whatever stands
around the assignment, as long as no other line starts with `__all__`. The
text behind the assignment starts inside a line. -/
theorem python_all_is_authoritative (a : AllAssignment) {front rest : Text}
    (hstart : StartsLine front.getLast?)
    (hfront : ∀ line ∈ Text.split '\n' front, ¬ "__all__".toList <+: line)
    (hrest : ∀ line ∈ (Text.split '\n' rest).tail,
      ¬ "__all__".toList <+: line) :
    symbols (front ++ a.text ++ rest) .python
      = Ordered.ofList (a.names.map QuotedName.name) := by
  -- The assignment is the one match; in it the second search reads the names.
  have hfound : ∃ m : Match, m.get .body = a.body
      ∧ allAssignment.findAll (front ++ a.text ++ rest) = [m] := by
    have hread :
        allAssignment.Reads front.getLast? a.text rest [(.body, a.body)] :=
      a.reads hstart
    have hclosed : ¬ StartsLine (a.text.getLast?.or front.getLast?) := by
      rw [a.getLast?_text]
      cases a.bracket <;> simp [Bracket.closing, StartsLine]
    obtain ⟨m, -, hparts, hfound⟩ :=
      hread.findAllFrom a.text_ne_nil (0 + front.length)
    have hend :=
      passesOver_rest hclosed hrest (0 + front.length + a.text.length)
    rw [List.append_nil] at hend
    rw [hend] at hfound
    refine ⟨m, hparts .body, ?_⟩
    rw [List.append_assoc, findAll, passesOver_front hstart hfront,
      Option.or_none]
    exact hfound
  obtain ⟨m, hbody, hfound⟩ := hfound
  have hnames : ((escapedLiteral .name).findAll (m.get .body)).map (·.get .name)
      = a.names.map QuotedName.name := by
    have hyields :
        (escapedLiteral .name).Yields (fun m => [m.get .name]) none a.body []
          fun _ => a.names.map QuotedName.name := a.yields
    have hall := hyields 0
    rw [List.append_nil] at hall
    rw [hbody, List.map_eq_flatMap]
    exact hall.trans (List.append_nil _)
  have hnone : ∀ name ∈ a.names.map QuotedName.name, name ≠ [] := by
    intro name hname
    obtain ⟨q, -, rfl⟩ := List.mem_map.mp hname
    exact q.nonempty
  have hdeclared : declaredAll? (front ++ a.text ++ rest)
      = some (a.names.map QuotedName.name).eraseDups := by
    rw [← Text.dedupe_eq_eraseDups hnone, ← hnames]
    unfold declaredAll?
    rw [hfound]
    show some (Text.dedupe ([m].flatMap _)) = _
    rw [List.flatMap_singleton]
  show pythonSymbols (front ++ a.text ++ rest) = _
  unfold pythonSymbols
  rw [hdeclared]
  refine Ordered.eq_of_mem_iff (Ordered.pairwise_ofList _)
    (Ordered.pairwise_ofList _) fun name => ?_
  rw [Ordered.mem_ofList, Ordered.mem_ofList, List.mem_eraseDups]

/-- Two names over two lines, with an annotation and a comma behind the last. -/
def spreadAssignment : AllAssignment where
  names := [⟨"b".toList, by decide, by decide, '\x22', by decide⟩,
    ⟨"a".toList, by decide, by decide, '\x27', by decide⟩]
  before := []
  blank_before := by decide
  annotation := some " tuple ".toList
  plain := by simp
  adds := true
  after := [' ']
  blank_after := by decide
  bracket := .round
  body := ['\n', ' '] ++ ['\x22', 'b', '\x22'] ++ []
    ++ ',' :: ([' '] ++ ['\x27', 'a', '\x27'] ++ [] ++ ',' :: ['\n'])
  enumerated := .some (.cons _ (by decide) (by decide)
    (.last _ (by decide) (by decide) (by decide)))

/-- Definitions around an assignment to `__all__`, one of them with an
assignment of its own inside, are not exported. -/
theorem python_all_is_authoritative_between_definitions :
    spreadAssignment.text = "__all__: tuple += (\n \"b\", 'a',\n)".toList
      ∧ symbols ("def hidden():\n  pass\n".toList ++ spreadAssignment.text
          ++ " # done\nclass Other:\n  __all__ = ['c']".toList) .python
        = ["a".toList, "b".toList] := by
  refine ⟨by decide, ?_⟩
  rw [python_all_is_authoritative spreadAssignment]
  · decide
  · simp [StartsLine]
  · decide +kernel
  · decide +kernel

end SourceAtlas.Export
