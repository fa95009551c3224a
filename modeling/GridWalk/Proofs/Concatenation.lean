import GridWalk.Proofs.Finality
import GridWalk.Proofs.RunShapes

/-!
# `GridWalk.Proofs.Concatenation`: documents and what is written behind them

A document may end in a number, in the letter of a heading, in blanks or in half a line end. A line
feed behind it disturbs none of these: it is one more blank. So whatever may stand behind the line
of a grid may stand behind any document as well, as long as the sections keep their order.

* `Beginning`: the grid line and the obstacle lines, whose blanks may go on.
* `Spells.extend`: a document stays what it is when something is written behind it.
* `read_concatenation`: which document comes of it, and what its journeys have to do with those of
  the first one.
-/

set_option autoImplicit false

namespace GridWalk

open Grammar
open GridWalk.Text (isBlank isBlank_lineEnds)

namespace Grammar

variable {text mid rest more : List Char} {g : Grid} {cells cells' : List Cell} {js : List Journey}

/-! ### Blanks behind entries -/

theorem Blanks.trans (h : Blanks text mid) (h' : Blanks mid rest) : Blanks text rest := by
  obtain ⟨run, hrun, rfl⟩ := h
  obtain ⟨run', hrun', rfl⟩ := h'
  refine ⟨run ++ run', fun c hc => ?_, (List.append_assoc _ _ _).symm⟩
  rcases List.mem_append.mp hc with hc | hc
  · exact hrun c hc
  · exact hrun' c hc

/-- All blanks at the start of a text. -/
theorem blanks_dropWhile (text : List Char) : Blanks text (text.dropWhile isBlank) :=
  ⟨text.takeWhile isBlank, List.all_eq_true.mp List.all_takeWhile,
    List.takeWhile_append_dropWhile.symm⟩

section
variable {α : Type} {p : Phrase α}

/-- A phrase takes the blanks that follow. -/
theorem Spaced.absorb {a : α} (h : Spaced p text a mid) (hblanks : Blanks mid rest) :
    Spaced p text a rest := by
  obtain ⟨_, hphrase, hfirst⟩ := h
  exact ⟨_, hphrase, hfirst.trans hblanks⟩

/-- The last of the phrases in a row takes the blanks that follow. -/
theorem Many.absorb {as : List α} (h : Many (Spaced p) text as mid) (hne : as ≠ [])
    (hblanks : Blanks mid rest) : Many (Spaced p) text as rest := by
  induction h with
  | nil => exact absurd rfl hne
  | @cons _ _ _ a as first others ih =>
    cases others with
    | nil => exact .cons (first.absorb hblanks) .nil
    | cons second others => exact .cons first (ih (List.cons_ne_nil _ _) hblanks)

end

/-! ### Beginnings -/

/-- The grid line and obstacle lines, with blanks after them that may go on. -/
inductive Beginning : List Char → Grid → List Cell → List Char → Prop
  | mk {text mid rest : List Char} {g : Grid} {cells : List Cell}
      (grid : Spaced GridLine text g mid) (obstacles : Many (Spaced ObstacleLine) mid cells rest) :
      Beginning text g cells rest

/-- A beginning takes the blanks that follow. -/
theorem Beginning.absorb (h : Beginning text g cells mid) (hblanks : Blanks mid rest) :
    Beginning text g cells rest := by
  obtain ⟨hgrid, hcells⟩ := h
  cases cells with
  | nil =>
    cases hcells
    exact .mk (hgrid.absorb hblanks) .nil
  | cons c cells => exact .mk hgrid (hcells.absorb (List.cons_ne_nil c cells) hblanks)

/-- A beginning goes on with further obstacle lines. -/
theorem Beginning.append (h : Beginning text g cells mid)
    (hcells : Many (Spaced ObstacleLine) mid cells' rest) :
    Beginning text g (cells ++ cells') rest := by
  obtain ⟨hgrid, hfirst⟩ := h
  exact .mk hgrid (hfirst.append hcells)

theorem Beginning.spells (h : Beginning text g cells mid)
    (hjs : Many (Spaced JourneyLines) mid js []) : Spells text ⟨g, cells, js⟩ := by
  obtain ⟨hgrid, hcells⟩ := h
  exact .mk hgrid hcells hjs

/-- A beginning whose blanks are over is an opening. -/
theorem Beginning.opening (h : Beginning text g cells rest) (hstops : Stops isBlank rest) :
    Opening text g cells rest := by
  obtain ⟨hgrid, hcells⟩ := h
  obtain ⟨hcells, hmid⟩ := hcells.toEntries ObstacleLine.stopsBefore hstops
  exact .mk ⟨hgrid, hmid⟩ hcells

/-- The parts of a document stay what they are when something is written behind it. -/
theorem Spells.extend {d : Document} (h : Spells text d) (hmore : Stops Char.isDigit more) :
    ∃ mid, Beginning (text ++ more) d.grid d.obstacles mid ∧
      Many (Spaced JourneyLines) mid d.journeys more := by
  obtain ⟨hgrid, hcells, hjs⟩ := h
  exact ⟨_, .mk (loose_gridLine.spaced.append hgrid hmore)
    (loose_obstacleLine.spaced.many.append hcells hmore),
    loose_journeyLines.spaced.many.append hjs hmore⟩

/-! ### Behind a grid of one cell -/

/-- The grid line of one cell. -/
theorem gridLine_unit (hstops : Stops Char.isDigit rest) :
    GridLine ("GRID 1x1".toList ++ rest) ⟨1, 1⟩ rest := by
  have hone {rest : List Char} (hstops : Stops Char.isDigit rest) : Number ('1' :: rest) 1 rest :=
    Number.run (List.cons_ne_nil '1' []) (List.forall_mem_singleton.mpr rfl) hstops (by decide)
  have hcross : Stops Char.isDigit ('x' :: '1' :: rest) := stops_cons.mpr (by decide)
  exact .mk ⟨0, rfl⟩ (hone hcross) (hone hstops)

/-- What follows the grid line of one cell and a line feed, after all blanks. -/
theorem Spells.behind_unit
    (h : Spells ("GRID 1x1\n".toList ++ text) ⟨⟨1, 1⟩, cells, js⟩) :
    ∃ mid rest, Blanks ('\n' :: text) mid ∧ Many (Entry ObstacleLine) mid cells rest ∧
      Many (Entry JourneyLines) rest js [] := by
  obtain ⟨rest, ⟨hgrid, hcells⟩, hjs⟩ := spells_iff.mp h
  -- There is only one way to read the grid line.
  have hblanks : Blanks ('\n' :: text) (text.dropWhile isBlank) :=
    (blanks_dropWhile text).cons isBlank_lineEnds.1
  have hunit : Entry GridLine ("GRID 1x1\n".toList ++ text) ⟨1, 1⟩ (text.dropWhile isBlank) :=
    ⟨⟨_, gridLine_unit stops_lineFeed, hblanks⟩, stops_dropWhile isBlank text⟩
  obtain ⟨-, rfl⟩ := Rule.reads_gridLine.entry.unique hunit hgrid
  exact ⟨_, rest, hblanks, hcells, hjs⟩

/-! ### Both texts -/

/-- If the sections keep their order, then the two documents make one. -/
theorem Spells.concatenate {d : Document} (h : Spells text d)
    (hmore : Spells ("GRID 1x1\n".toList ++ more) ⟨⟨1, 1⟩, cells, js⟩)
    (horder : d.journeys = [] ∨ cells = []) :
    Spells (text ++ '\n' :: more) ⟨d.grid, d.obstacles ++ cells, d.journeys ++ js⟩ := by
  have hfeed : Stops Char.isDigit ('\n' :: more) := stops_lineFeed
  obtain ⟨mid, hbegin, hjourneys⟩ := h.extend hfeed
  obtain ⟨t₁, t₂, hblanks, hcells, hjs⟩ := hmore.behind_unit
  have hcells : Many (Spaced ObstacleLine) t₁ cells t₂ := hcells.mono fun hentry => hentry.1
  have hjs : Many (Spaced JourneyLines) t₂ js [] := hjs.mono fun hentry => hentry.1
  by_cases hnone : d.journeys = []
  · -- The beginning itself goes on.
    rw [hnone] at hjourneys ⊢
    cases hjourneys
    exact ((hbegin.absorb hblanks).append hcells).spells hjs
  · -- The journeys go on, and no obstacle line comes between.
    obtain rfl : cells = [] := horder.resolve_left hnone
    cases hcells
    rw [List.append_nil]
    exact hbegin.spells ((hjourneys.absorb hnone hblanks).append hjs)

/-- Where an obstacle line follows a journey, the text breaks off. -/
theorem Spells.late_obstacle {d : Document} (h : Spells text d)
    (hmore : Spells ("GRID 1x1\n".toList ++ more) ⟨⟨1, 1⟩, cells, js⟩)
    (hsome : d.journeys ≠ []) (hlate : cells ≠ []) :
    ∃ here, DocumentComplains (text ++ '\n' :: more) ⟨mayFollow d.journeys, here, false⟩ := by
  have hfeed : Stops Char.isDigit ('\n' :: more) := stops_lineFeed
  obtain ⟨mid, hbegin, hjourneys⟩ := h.extend hfeed
  obtain ⟨here, _, hblanks, hcells, -⟩ := hmore.behind_unit
  cases hcells with
  | nil => exact absurd rfl hlate
  | cons first _ =>
    obtain ⟨⟨_, hobstacle, _⟩, _⟩ := first
    obtain ⟨word, hword⟩ := Rule.isPrefix_of_obstacleLine hobstacle
    have hjourneys : Many (Spaced JourneyLines) mid d.journeys here :=
      hjourneys.absorb hsome hblanks
    obtain ⟨hjourneys, hmid⟩ := hjourneys.toEntries JourneyLines.stopsBefore hobstacle.stopsBefore
    refine ⟨here, .stray (hbegin.opening hmid) ?_ hjourneys ?_ ?_⟩
    · -- The first of the journeys is in the way of an obstacle line.
      generalize d.journeys = journeys at hjourneys hsome
      cases hjourneys with
      | nil => exact absurd rfl hsome
      | cons first _ =>
        obtain ⟨⟨_, hlines, _⟩, _⟩ := first
        exact Rule.not_isPrefix_of_isDigit hlines.not_stops
    · rw [← hword]
      exact List.cons_ne_nil _ _
    · rw [← hword]
      exact stops_cons.mpr (by decide)

end Grammar

/-! ### Journeys in the longer document -/

/-- Journeys that are written behind the others change nothing for these. -/
theorem execute_take {text long : String} {d : Document} {js : List Journey}
    (h : Document.read text = .ok d)
    (hlong : Document.read long = .ok ⟨d.grid, d.obstacles, d.journeys ++ js⟩)
    (hrun : (run long).isCompleted = true) :
    (run text).isCompleted = true ∧ execute text = (execute long).take d.journeys.length := by
  have hsound := (Run.isCompleted_run_iff hlong).mp hrun
  have hsound' : d.arena.Sound :=
    ⟨hsound.width_pos, hsound.height_pos, hsound.obstacle_mem,
      fun j hj => hsound.start_mem j (List.mem_append_left js hj),
      fun j hj => hsound.goal_mem j (List.mem_append_left js hj)⟩
  refine ⟨(Run.isCompleted_run_iff h).mpr hsound', ?_⟩
  have hsame : (Document.arena ⟨d.grid, d.obstacles, d.journeys ++ js⟩).outcome = d.arena.outcome :=
    funext (Arena.outcome_congr rfl rfl)
  rw [execute_eq h hsound', execute_eq hlong hsound, hsame, List.map_append,
    List.take_left' (List.length_map _)]

/-! ### Main result -/

/-- Documents compose by concatenation.

Let `t` be a document, and let `u` be a text that makes a document behind the line `GRID 1x1`. If
`t` has no journeys, or if `u` has no obstacles, then `t`, a line feed and `u` are a document with
the grid of `t`, the obstacles of both and the journeys of both. Otherwise an obstacle line follows
a journey, and there the text breaks off. If `u` has no obstacles and all journeys of the longer
text can be driven, then those of `t` can be driven as well, and their lines are the first ones. -/
theorem read_concatenation {t u : String} {d : Document} {cells : List Cell} {js : List Journey}
    (ht : Document.read t = .ok d)
    (hu : Document.read ("GRID 1x1\n" ++ u) = .ok ⟨⟨1, 1⟩, cells, js⟩) :
    (d.journeys = [] ∨ cells = [] →
        Document.read (t ++ "\n" ++ u) = .ok ⟨d.grid, d.obstacles ++ cells, d.journeys ++ js⟩) ∧
      (d.journeys ≠ [] → cells ≠ [] →
        ∃ e, Document.read (t ++ "\n" ++ u) = .error e ∧
          e.expected = "robot journey or end of input") ∧
      (cells = [] → (run (t ++ "\n" ++ u)).isCompleted = true →
        (run t).isCompleted = true ∧
          execute t = (execute (t ++ "\n" ++ u)).take d.journeys.length) := by
  have hspells : Spells t.toList d := read_eq_ok_iff.mp ht
  have hmore : Spells ("GRID 1x1\n".toList ++ u.toList) ⟨⟨1, 1⟩, cells, js⟩ := by
    rw [← String.toList_append]
    exact read_eq_ok_iff.mp hu
  have hlong : (t ++ "\n" ++ u).toList = t.toList ++ '\n' :: u.toList := by
    rw [String.toList_append, String.toList_append, List.append_assoc]
    rfl
  have hread : d.journeys = [] ∨ cells = [] →
      Document.read (t ++ "\n" ++ u) = .ok ⟨d.grid, d.obstacles ++ cells, d.journeys ++ js⟩ := by
    intro horder
    rw [read_eq_ok_iff, hlong]
    exact hspells.concatenate hmore horder
  refine ⟨hread, ?_, ?_⟩
  · intro hsome hlate
    obtain ⟨here, hcomplains⟩ := hspells.late_obstacle hmore hsome hlate
    refine ⟨_, read_eq_error_iff.mpr ⟨_, hlong ▸ hcomplains, rfl⟩, ?_⟩
    show mayFollow d.journeys = _
    rw [mayFollow, if_neg (by simpa using hsome)]
  · intro hnone hrun
    have hread := hread (.inr hnone)
    rw [hnone, List.append_nil] at hread
    exact execute_take ht hread hrun

/-- A journey with half a line end after it, and the way back written behind that. -/
theorem read_concatenation_way_back :
    Document.read "GRID 2x1\n0 0 E\nF\n1 0 E\r"
        = .ok ⟨⟨2, 1⟩, [], [⟨⟨⟨0, 0⟩, .east⟩, [.forward], ⟨⟨1, 0⟩, .east⟩⟩]⟩ ∧
      Document.read ("GRID 1x1\n" ++ "1 0 W\nF\n0 0 W")
        = .ok ⟨⟨1, 1⟩, [], [⟨⟨⟨1, 0⟩, .west⟩, [.forward], ⟨⟨0, 0⟩, .west⟩⟩]⟩ ∧
      Document.read ("GRID 2x1\n0 0 E\nF\n1 0 E\r" ++ "\n" ++ "1 0 W\nF\n0 0 W")
        = .ok ⟨⟨2, 1⟩, [], [⟨⟨⟨0, 0⟩, .east⟩, [.forward], ⟨⟨1, 0⟩, .east⟩⟩,
            ⟨⟨⟨1, 0⟩, .west⟩, [.forward], ⟨⟨0, 0⟩, .west⟩⟩]⟩ ∧
      execute "GRID 2x1\n0 0 E\nF\n1 0 E\r"
        = (execute ("GRID 2x1\n0 0 E\nF\n1 0 E\r" ++ "\n" ++ "1 0 W\nF\n0 0 W")).take 1 := by
  have ht : Document.read "GRID 2x1\n0 0 E\nF\n1 0 E\r"
      = .ok ⟨⟨2, 1⟩, [], [⟨⟨⟨0, 0⟩, .east⟩, [.forward], ⟨⟨1, 0⟩, .east⟩⟩]⟩ := by
    decide +kernel
  have hu : Document.read ("GRID 1x1\n" ++ "1 0 W\nF\n0 0 W")
      = .ok ⟨⟨1, 1⟩, [], [⟨⟨⟨1, 0⟩, .west⟩, [.forward], ⟨⟨0, 0⟩, .west⟩⟩]⟩ := by
    decide +kernel
  obtain ⟨hread, -, htake⟩ := read_concatenation ht hu
  exact ⟨ht, hu, hread (.inr rfl), (htake rfl (by decide +kernel)).2⟩

end GridWalk
