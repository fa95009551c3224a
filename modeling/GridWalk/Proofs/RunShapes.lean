import GridWalk.Proofs.Announcements
import GridWalk.Proofs.Violations

/-!
# `GridWalk.Proofs.RunShapes`: the three shapes of a run

A run is seen through its parts: a parse error, notices, an arena, outcomes and lines. `Run`
keeps these apart by its constructors. The statements below say what each part is, for the
reader's, the check's and the simulation's answers to the same text.

* `Run.IsUnreadable`, `Run.IsRejected` and `Run.IsCompleted`: the three shapes, part by part.
* `Run.isCompleted_run_iff` and `execute_eq`: when the journeys of a document are driven, and what is
  written then.
* `run_has_one_shape`: every run has one of them and only one, whoever watches.
-/

set_option autoImplicit false

namespace GridWalk

namespace Run

/-- The parse error, if the text is no document. -/
def parseError? : Run → Option ParseError
  | unreadable e => some e
  | _ => none

/-- The notices, of which there are none unless the document was refused. -/
def notices : Run → List Notice
  | rejected r => r.notices
  | _ => []

/-- The run of a text that is no document: its error is all there is, in one line. -/
structure IsUnreadable (text : String) (r : Run) (e : ParseError) : Prop where
  read : Document.read text = .error e
  parseError : r.parseError? = some e
  notices : r.notices = []
  arena : r.arena? = none
  outcomes : r.outcomes = []
  lines : r.lines = ["Parsing: " ++ e.message]

/-- The run of a document that was refused: the notices of the check are all there is, in one
line each. -/
structure IsRejected (text : String) (r : Run) (d : Document) (refusal : Rejection) : Prop where
  read : Document.read text = .ok d
  check : d.check = .error refusal
  notices : r.notices = refusal.notices
  notices_ne_nil : r.notices ≠ []
  parseError : r.parseError? = none
  arena : r.arena? = none
  outcomes : r.outcomes = []
  lines : r.lines = refusal.notices.map fun n => "Validation: " ++ n.message

/-- The run of a document that passed: one outcome and one line for each of its journeys, in
document order. -/
structure IsCompleted (text : String) (r : Run) (d : Document) (a : Arena) : Prop where
  read : Document.read text = .ok d
  check : d.check = .ok a
  arena : r.arena? = some a
  parseError : r.parseError? = none
  notices : r.notices = []
  outcomes : r.outcomes = d.journeys.map a.outcome
  length_lines : r.lines.length = d.journeys.length
  lines : ∀ i : Nat, r.lines[i]? = r.outcomes[i]?.map Outcome.line

/-! ### Each answer leads to its shape -/

variable {text : String} {d : Document}

/-- A parse error ends the run. -/
theorem isUnreadable_run {e : ParseError} (h : Document.read text = .error e) :
    IsUnreadable text (run text) e := by
  have hrun : run text = .unreadable e := by rw [run_eq, h]
  rw [hrun]
  exact ⟨h, rfl, rfl, rfl, rfl, rfl⟩

/-- A refusal ends the run. -/
theorem isRejected_run {refusal : Rejection} (h : Document.read text = .ok d)
    (hcheck : d.check = .error refusal) : IsRejected text (run text) d refusal := by
  have hrun : run text = .rejected refusal := by
    rw [run_eq, h]
    simp only [hcheck]
  rw [hrun]
  exact ⟨h, hcheck, rfl, refusal.notices_ne_nil, rfl, rfl, rfl, rfl⟩

/-- A document that passes is driven through. -/
theorem isCompleted_run {a : Arena} (h : Document.read text = .ok d) (hcheck : d.check = .ok a) :
    IsCompleted text (run text) d a := by
  have hrun : run text = .completed a a.outcomes := by
    rw [run_eq, h]
    simp only [hcheck]
  have houtcomes : a.outcomes = d.journeys.map a.outcome := by
    rw [Arena.outcomes_eq_map, Document.journeys_of_check hcheck]
  rw [hrun]
  refine ⟨h, hcheck, rfl, rfl, rfl, houtcomes, ?_, fun i => List.getElem?_map⟩
  rw [lines, List.length_map, houtcomes, List.length_map]

/-- A run is completed when the text is a document with a sound arena. It has the outcomes of the
journeys in that arena. -/
theorem run_eq_completed_iff {a : Arena} {outcomes : List Outcome} :
    run text = .completed a outcomes ↔
      ∃ d, Document.read text = .ok d ∧ d.arena.Sound ∧ a = d.arena ∧
        outcomes = a.journeys.map a.outcome := by
  rw [run_eq]
  cases hread : Document.read text with
  | error e => simp
  | ok d =>
    cases hcheck : d.check with
    | error r =>
      have hunsound := Document.exists_check_eq_error_iff.mp ⟨r, hcheck⟩
      simp [hcheck, hunsound]
    | ok b =>
      obtain ⟨hsound, rfl⟩ := Document.check_eq_ok_iff_sound.mp hcheck
      simp only [hcheck, Run.completed.injEq, Except.ok.injEq, exists_eq_left', hsound, true_and,
        Arena.outcomes_eq_map]
      constructor
      · rintro ⟨rfl, rfl⟩
        exact ⟨rfl, rfl⟩
      · rintro ⟨rfl, rfl⟩
        exact ⟨rfl, rfl⟩

/-- A run ends with a parse error when the text is no document. -/
theorem run_eq_unreadable_iff {e : ParseError} :
    run text = .unreadable e ↔ Document.read text = .error e := by
  rw [run_eq]
  cases hread : Document.read text with
  | error e' => simp
  | ok d => cases hcheck : d.check <;> simp [hcheck]

/-- A run ends with a refusal when the text is a document that the check refuses. -/
theorem run_eq_rejected_iff {r : Rejection} :
    run text = .rejected r ↔ ∃ d, Document.read text = .ok d ∧ d.check = .error r := by
  rw [run_eq]
  cases hread : Document.read text with
  | error e => simp
  | ok d => cases hcheck : d.check <;> simp [hcheck]

/-- The run of a document is completed exactly when all that it places is on its grid. -/
theorem isCompleted_run_iff (h : Document.read text = .ok d) :
    (run text).isCompleted = true ↔ d.arena.Sound := by
  rw [← Document.violations_eq_nil_iff]
  cases hcheck : d.check with
  | ok a => simp [run_eq, h, hcheck, isCompleted, (Document.check_eq_ok_iff.mp hcheck).1]
  | error r => simp [run_eq, h, hcheck, isCompleted, (Document.check_eq_error_iff.mp hcheck).1]

/-! ### A text has one answer only -/

/-- The three shapes. -/
inductive Shape
  | unreadable
  | rejected
  | completed
deriving DecidableEq

/-- The run of the text has the shape, for some answers of the reader and the check. -/
def HasShape (text : String) (r : Run) : Shape → Prop
  | .unreadable => ∃ e, IsUnreadable text r e
  | .rejected => ∃ d refusal, IsRejected text r d refusal
  | .completed => ∃ d a, IsCompleted text r d a

/-- Every run has a shape, and it counts as completed when that is the third one. -/
theorem exists_hasShape (text : String) :
    ∃ s, HasShape text (run text) s ∧ ((run text).isCompleted = true ↔ s = .completed) := by
  cases hread : Document.read text with
  | error e =>
    refine ⟨.unreadable, ⟨e, isUnreadable_run hread⟩, ?_⟩
    simp [run_eq, hread, isCompleted]
  | ok d =>
    cases hcheck : d.check with
    | error refusal =>
      refine ⟨.rejected, ⟨d, refusal, isRejected_run hread hcheck⟩, ?_⟩
      simp [run_eq, hread, hcheck, isCompleted]
    | ok a =>
      refine ⟨.completed, ⟨d, a, isCompleted_run hread hcheck⟩, ?_⟩
      simp [run_eq, hread, hcheck, isCompleted]

/-- The shape of a document that was read comes from the answer of the check. -/
theorem HasShape.of_read {r : Run} {s : Shape} (h : HasShape text r s)
    (hread : Document.read text = .ok d) :
    (s = .rejected ∧ ∃ refusal, d.check = .error refusal) ∨
      (s = .completed ∧ ∃ a, d.check = .ok a) := by
  cases s with
  | unreadable =>
    obtain ⟨e, h⟩ := h
    cases h.read.symm.trans hread
  | rejected =>
    obtain ⟨d', refusal, h⟩ := h
    cases h.read.symm.trans hread
    exact .inl ⟨rfl, refusal, h.check⟩
  | completed =>
    obtain ⟨d', a, h⟩ := h
    cases h.read.symm.trans hread
    exact .inr ⟨rfl, a, h.check⟩

/-- The shape of a text that is no document is the first one. -/
theorem HasShape.of_not_read {r : Run} {s : Shape} {e : ParseError} (h : HasShape text r s)
    (hread : Document.read text = .error e) : s = .unreadable := by
  cases s with
  | unreadable => rfl
  | rejected =>
    obtain ⟨d, refusal, h⟩ := h
    cases h.read.symm.trans hread
  | completed =>
    obtain ⟨d, a, h⟩ := h
    cases h.read.symm.trans hread

/-- No run has two shapes. -/
theorem HasShape.unique {r : Run} {s t : Shape} (hs : HasShape text r s)
    (ht : HasShape text r t) : s = t := by
  -- The reader's answer tells the first shape from the others, and the check's answer those.
  cases hread : Document.read text with
  | error e => rw [hs.of_not_read hread, ht.of_not_read hread]
  | ok d =>
    rcases hs.of_read hread with ⟨rfl, refusal, hcheck⟩ | ⟨rfl, a, hcheck⟩
    · rcases ht.of_read hread with ⟨rfl, -⟩ | ⟨-, a, hcheck'⟩
      · rfl
      · cases hcheck.symm.trans hcheck'
    · rcases ht.of_read hread with ⟨-, refusal, hcheck'⟩ | ⟨rfl, -⟩
      · cases hcheck.symm.trans hcheck'
      · rfl

/-- A run is completed when it has neither an error nor notices. -/
theorem isCompleted_iff (r : Run) :
    r.isCompleted = true ↔ r.parseError? = none ∧ r.notices = [] := by
  cases r with
  | unreadable e => simp [isCompleted, parseError?]
  | rejected refusal => simp [isCompleted, notices, refusal.notices_ne_nil]
  | completed a outcomes => simp [isCompleted, parseError?, notices]

end Run

/-- The output of a document that passes has one line for each journey. -/
theorem execute_eq {text : String} {d : Document} (h : Document.read text = .ok d)
    (hsound : d.arena.Sound) : execute text = d.journeys.map fun j => (d.arena.outcome j).line := by
  have hcheck : d.check = .ok d.arena := Document.check_eq_ok_iff_sound.mpr ⟨hsound, rfl⟩
  show (run text).lines = _
  rw [Run.run_eq, h]
  simp only [hcheck]
  show d.arena.outcomes.map Outcome.line = _
  rw [Arena.outcomes_eq_map, List.map_map]
  rfl

/-- Every run has one of three shapes and only one.

Either the text is no document, and the run has its parse error. Or the document was refused,
and the run has the notices of the check. Or the document passed, and the run has its arena and
one outcome for each journey. What a shape does not have is empty, and the lines are those of
what it has. The run counts as completed exactly in the third shape, which is when it has neither
an error nor notices. Whatever the hooks do, the run with them is some effects and then the run
without them, and so are its lines. -/
theorem run_has_one_shape {m : Type → Type} [Monad m] [LawfulMonad m] (hooks : Hooks m)
    (text : String) :
    (∃ s, Run.HasShape text (run text) s ∧ ∀ t, Run.HasShape text (run text) t → t = s) ∧
      ((run text).isCompleted = true ↔ Run.HasShape text (run text) .completed) ∧
      ((run text).isCompleted = true ↔
        (run text).parseError? = none ∧ (run text).notices = []) ∧
      execute text = (run text).lines ∧
      ∃ effects : m Unit,
        (Run.ofText hooks text = do effects; return run text) ∧
          (Run.lines <$> Run.ofText hooks text = do effects; return execute text) := by
  obtain ⟨s, hs, hcompleted⟩ := Run.exists_hasShape text
  have hofText := Run.ofText_eq hooks text
  refine ⟨⟨s, hs, fun t ht => ht.unique hs⟩, ?_, Run.isCompleted_iff _, rfl,
    Run.announce hooks text, hofText, ?_⟩
  · rw [hcompleted]
    constructor
    · rintro rfl
      exact hs
    · exact hs.unique
  · rw [hofText, map_bind, map_pure]
    rfl

/-- A journey that turns once, with hooks that count the events. -/
theorem run_has_one_shape_counting :
    LawfulMonad (StateM Nat) ∧
      ∃ effects : StateM Nat Unit,
        Run.lines <$> Run.ofText (Hooks.watching fun _ _ => modify (· + 1))
            "GRID 1x1\n0 0 N\nR\n0 0 E"
          = do effects; return ["SUCCESS 0 0 E"] := by
  refine ⟨inferInstance, ?_⟩
  obtain ⟨-, -, -, -, effects, -, hlines⟩ :=
    run_has_one_shape (m := StateM Nat) (Hooks.watching fun _ _ => modify (· + 1))
      "GRID 1x1\n0 0 N\nR\n0 0 E"
  have hexecute : execute "GRID 1x1\n0 0 N\nR\n0 0 E" = ["SUCCESS 0 0 E"] := by
    decide +kernel
  exact ⟨effects, hexecute ▸ hlines⟩

end GridWalk
