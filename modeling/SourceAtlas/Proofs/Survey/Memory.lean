/-
The memory of a survey over a whole session. Questions are asked one after
the other, each of them about the tree as it is at that moment, so between
two questions the tree may change in any way. What a survey answers is then
settled by the first time it was asked the same: by which extensions, in
whatever order and however often they are written, and which of tests and
declarations are left out.

The log of a session keeps every answer that was given. `Recorded` ties it
to the memory: the survey remembers for a filter exactly what stands in the
log for it. One question keeps that (`Recorded.ask`), and the three parts of
`Coherent` are read off it.
-/
import SourceAtlas.Proofs.Survey.Listing

namespace SourceAtlas.Survey

-- ============================================================ questions

/-- A question to a survey, with the tree as it is when it is asked. -/
structure Question where
  root : Node
  extensions : List Text
  skipTests : Bool
  skipDeclarations : Bool

/-- The filter that a question asks for. -/
def Question.filter (q : Question) : Filter :=
  .make q.extensions q.skipTests q.skipDeclarations

/-- Two questions ask for the same, possibly about different trees: the same
extensions, regardless of order and repetition, and the same flags. -/
structure Question.Alike (q r : Question) : Prop where
  extensions : ∀ extension, extension ∈ q.extensions ↔ extension ∈ r.extensions
  skipTests : q.skipTests = r.skipTests
  skipDeclarations : q.skipDeclarations = r.skipDeclarations

/-- Questions that ask for the same have the same filter, and no others. -/
theorem Question.filter_eq_iff {q r : Question} :
    q.filter = r.filter ↔ q.Alike r := by
  unfold filter Filter.make
  rw [Filter.mk.injEq]
  constructor
  · intro h
    obtain ⟨hexts, htests, hdecls⟩ := h
    refine ⟨fun extension => ?_, htests, hdecls⟩
    rw [← Ordered.mem_ofList, hexts, Ordered.mem_ofList]
  · intro h
    obtain ⟨hexts, htests, hdecls⟩ := h
    refine ⟨?_, htests, hdecls⟩
    refine Ordered.eq_of_mem_iff (Ordered.pairwise_ofList _)
      (Ordered.pairwise_ofList _) ?_
    intro extension
    rw [Ordered.mem_ofList, Ordered.mem_ofList]
    exact hexts extension

-- ============================================================= sessions

/-- A survey, and the questions that it was asked so far with the answers
that it gave, in order. -/
structure Session where
  survey : Survey
  log : List (Question × List SourceFile)

namespace Session

/-- Nothing was asked yet. -/
def start (scope : Scope) : Session := ⟨⟨scope, []⟩, []⟩

/-- Asks one question. -/
def ask (s : Session) (q : Question) : Session :=
  let (files, survey) := s.survey.enumerate q.root q.filter
  ⟨survey, s.log ++ [(q, files)]⟩

/-- Asks some questions, one after the other. -/
def run (scope : Scope) (questions : List Question) : Session :=
  questions.foldl ask (start scope)

/-- The answers given so far, each under the filter that was asked. -/
def records (s : Session) : List (Filter × List SourceFile) :=
  s.log.map fun entry => (entry.1.filter, entry.2)

/-- Who asks what was not asked before gets the answer of a survey that was
never asked anything, about the tree of that moment. -/
def AnswersNew (scope : Scope) (s : Session) : Prop :=
  ∀ before q files after, s.log = before ++ (q, files) :: after →
    (∀ earlier ∈ before, ¬ q.Alike earlier.1) →
      files = (enumerate ⟨scope, []⟩ q.root q.filter).1

/-- What a session promises about the answers in its log. -/
structure Coherent (scope : Scope) (s : Session) : Prop where
  /-- Who asks the same gets the same answer. -/
  repeated : ∀ earlier ∈ s.log, ∀ later ∈ s.log,
    later.1.Alike earlier.1 → later.2 = earlier.2
  new : s.AnswersNew scope
  /-- All paths are those of the answers given so far. -/
  paths : ∀ p, p ∈ s.survey.allPaths
    ↔ ∃ entry ∈ s.log, ∃ f ∈ entry.2, f.path = p

-- ============================================================== memory

/-- The survey remembers what stands in the log, and for each filter one
answer. -/
structure Recorded (scope : Scope) (s : Session) : Prop where
  sameScope : s.survey.scope = scope
  remembered : ∀ answer, answer ∈ s.survey.answers ↔ answer ∈ s.records
  single : ∀ first ∈ s.survey.answers, ∀ second ∈ s.survey.answers,
    second.1 = first.1 → second.2 = first.2

variable {scope : Scope} {s : Session}

theorem recorded_start (scope : Scope) : (start scope).Recorded scope := by
  refine ⟨rfl, fun _ => Iff.rfl, ?_⟩
  intro first h
  cases h

/-- Each question is logged with its answer. -/
theorem log_ask (s : Session) (q : Question) :
    (s.ask q).log = s.log ++ [(q, (s.survey.enumerate q.root q.filter).1)] :=
  rfl

theorem records_ask (s : Session) (q : Question) :
    (s.ask q).records
      = s.records ++ [(q.filter, (s.survey.enumerate q.root q.filter).1)] := by
  unfold records
  rw [log_ask, List.map_append, List.map_singleton]

/-- One question keeps the memory that of the log. -/
theorem Recorded.ask (h : s.Recorded scope) (q : Question) :
    (s.ask q).Recorded scope := by
  have hsurvey : (s.ask q).survey = (s.survey.enumerate q.root q.filter).2 :=
    rfl
  have hrecords := records_ask s q
  rcases enumerate_cases s.survey q.root q.filter
    with ⟨files, hmem, he⟩ | ⟨hnew, he⟩
  · -- the answer is there, so the log says once more what it says already
    rw [he] at hsurvey hrecords
    refine ⟨?_, ?_, ?_⟩
    · rw [hsurvey]
      exact h.sameScope
    · intro answer
      rw [hsurvey, hrecords, List.mem_append, List.mem_singleton,
        ← h.remembered]
      constructor
      · exact Or.inl
      · rintro (hanswer | rfl)
        · exact hanswer
        · exact hmem
    · rw [hsurvey]
      exact h.single
  · -- memory and log get the same answer, to a filter that has none yet
    rw [he] at hsurvey hrecords
    have hother : ∀ answer ∈ s.survey.answers, answer.1 ≠ q.filter := by
      intro answer hanswer heq
      exact hnew (heq ▸ List.mem_map.mpr ⟨answer, hanswer, rfl⟩)
    refine ⟨?_, ?_, ?_⟩
    · rw [hsurvey]
      exact h.sameScope
    · intro answer
      rw [hsurvey, hrecords, List.mem_append, List.mem_append, h.remembered]
    · rw [hsurvey]
      intro first hfirst second hsecond hsame
      rcases List.mem_append.mp hfirst with hfirst | hfirst
      · rcases List.mem_append.mp hsecond with hsecond | hsecond
        · exact h.single first hfirst second hsecond hsame
        · rw [List.mem_singleton.mp hsecond] at hsame
          exact absurd hsame.symm (hother first hfirst)
      · rw [List.mem_singleton.mp hfirst] at hsame ⊢
        rcases List.mem_append.mp hsecond with hsecond | hsecond
        · exact absurd hsame (hother second hsecond)
        · rw [List.mem_singleton.mp hsecond]

/-- A log with one more entry at its end, cut somewhere: at that entry, or
before it. -/
private theorem concat_eq_append_cons {α : Type} {log before after : List α}
    {last entry : α} (h : log ++ [last] = before ++ entry :: after) :
    (before = log ∧ entry = last) ∨ ∃ rest, log = before ++ entry :: rest := by
  rcases List.eq_nil_or_concat after with rfl | ⟨rest, final, rfl⟩
  · obtain ⟨hlog, hlast⟩ := List.append_inj' h rfl
    exact Or.inl ⟨hlog.symm, (List.cons.inj hlast).1.symm⟩
  · have h' : log ++ [last] = (before ++ entry :: rest) ++ [final] := by
      simpa using h
    exact Or.inr ⟨rest, (List.append_inj' h' rfl).1⟩

/-- A filter is remembered only if a question like it is in the log. -/
theorem Recorded.answersNew_ask (h : s.Recorded scope)
    (hnew : s.AnswersNew scope) (q : Question) :
    (s.ask q).AnswersNew scope := by
  intro before r files after hlog hfirst
  rw [log_ask] at hlog
  rcases concat_eq_append_cons hlog with ⟨rfl, hlast⟩ | ⟨rest, hrest⟩
  · obtain ⟨rfl, rfl⟩ := Prod.mk.inj hlast
    rcases enumerate_cases s.survey r.root r.filter
      with ⟨files, hmem, -⟩ | ⟨-, he⟩
    · obtain ⟨earlier, hearlier, heq⟩ :=
        List.mem_map.mp ((h.remembered _).mp hmem)
      have halike := Question.filter_eq_iff.mp (Prod.mk.inj heq).1.symm
      exact absurd halike (hfirst earlier hearlier)
    · rw [he, h.sameScope]
      rfl
  · exact hnew before r files rest hrest hfirst

/-- What one question keeps, all questions of a session keep. -/
theorem recorded_run (scope : Scope) (questions : List Question) :
    (run scope questions).Recorded scope
      ∧ (run scope questions).AnswersNew scope := by
  have hfold : ∀ s : Session, s.Recorded scope ∧ s.AnswersNew scope →
      (questions.foldl Session.ask s).Recorded scope
        ∧ (questions.foldl Session.ask s).AnswersNew scope := by
    induction questions with
    | nil => exact fun _ h => h
    | cons q rest ih =>
        exact fun _ h => ih _ ⟨h.1.ask q, h.1.answersNew_ask h.2 q⟩
  refine hfold _ ⟨recorded_start scope, ?_⟩
  intro before q files after h
  simp [start] at h

/-- The log lists the questions. -/
theorem log_foldl (questions : List Question) (s : Session) :
    (questions.foldl ask s).log.map (·.1) = s.log.map (·.1) ++ questions := by
  induction questions generalizing s with
  | nil => simp
  | cons q rest ih =>
      rw [List.foldl_cons, ih, log_ask, List.map_append, List.append_assoc]
      rfl

/-- A memory that is that of the log makes the answers coherent. -/
theorem Recorded.coherent (h : s.Recorded scope) (hnew : s.AnswersNew scope) :
    s.Coherent scope := by
  have hlogged :
      ∀ entry ∈ s.log, (entry.1.filter, entry.2) ∈ s.survey.answers :=
    fun entry hentry => (h.remembered _).mpr
      (List.mem_map.mpr ⟨entry, hentry, rfl⟩)
  refine ⟨?_, hnew, ?_⟩
  · intro earlier hearlier later hlater hsame
    exact h.single _ (hlogged earlier hearlier) _ (hlogged later hlater)
      (Question.filter_eq_iff.mpr hsame)
  · intro p
    unfold allPaths
    rw [Ordered.mem_ofList, List.mem_flatMap]
    constructor
    · rintro ⟨answer, hanswer, hp⟩
      obtain ⟨f, hf, rfl⟩ := List.mem_map.mp hp
      obtain ⟨entry, hentry, rfl⟩ :=
        List.mem_map.mp ((h.remembered answer).mp hanswer)
      exact ⟨entry, hentry, f, hf, rfl⟩
    · rintro ⟨entry, hentry, f, hf, rfl⟩
      exact ⟨_, hlogged entry hentry, List.mem_map.mpr ⟨f, hf, rfl⟩⟩

end Session

-- ========================================================== the theorem

/-- Whatever questions a survey is asked and however the tree changes between
them: a question like an earlier one gets the earlier answer, a new one gets
the answer of a survey that was never asked, about the tree of that moment,
and the paths of the survey are those of all answers so far. -/
theorem session_is_coherent (scope : Scope) (questions : List Question) :
    (Session.run scope questions).log.map (·.1) = questions
      ∧ (Session.run scope questions).Coherent scope :=
  have hrun := Session.recorded_run scope questions
  ⟨Session.log_foldl questions _, hrun.1.coherent hrun.2⟩

/-- A file takes the place of another one between the first two questions,
which ask for the same; the third one is new. -/
example :
    let earlier := Node.directory [("a.ts".toList, .file [] true)]
    let later := Node.directory [("b.ts".toList, .file [] true)]
    let session := Session.run (.base [] [])
      [⟨earlier, [".ts".toList, ".js".toList], false, false⟩,
       ⟨later, [".js".toList, ".ts".toList, ".js".toList], false, false⟩,
       ⟨later, [".ts".toList], true, false⟩]
    session.log.map (·.2.map (·.path))
      = [["a.ts".toList], ["a.ts".toList], ["b.ts".toList]]
      ∧ session.survey.allPaths = ["a.ts".toList, "b.ts".toList] := by
  decide +kernel

end SourceAtlas.Survey
