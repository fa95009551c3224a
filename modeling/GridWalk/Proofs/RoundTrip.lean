import GridWalk.Proofs.Acceptance
import GridWalk.Run
import Mathlib.Data.List.Basic

/-!
# `GridWalk.Proofs.RoundTrip`: writing documents and reading them back

`Document.render` writes a document in the plainest way: one space between two fields, a line feed
after each line, decimals without zeros in front. A text can say the same in many other ways, but
this one is as good as any: what can be read at all can be written, and is read back as it was.

* `Document.Writable`: the documents that texts can stand for. Their numbers fit, and their
  journeys have commands.
* `spells_render` and `writable_of_spells`: what is written is spelled, and only that.
* `read_render`: reading undoes writing on these documents, and on no others.
-/

set_option autoImplicit false

namespace GridWalk

open Grammar

/-! ### Written documents -/

/-- The line of an obstacle. -/
def Cell.obstacleLine (c : Cell) : String :=
  "OBSTACLE " ++ toString c.x ++ " " ++ toString c.y ++ "\n"

/-- The three lines of a journey. -/
def Journey.lines (j : Journey) : String :=
  j.start.line ++ "\n" ++ j.spelling ++ "\n" ++ j.goal.line ++ "\n"

/-- The document as a text. -/
def Document.render (d : Document) : String :=
  "GRID " ++ d.grid.extent ++ "\n" ++ String.join (d.obstacles.map Cell.obstacleLine)
    ++ String.join (d.journeys.map Journey.lines)

/-- A number that a document may hold. -/
def Fits (n : Int) : Prop :=
  0 ≤ n ∧ n ≤ 2147483647

/-- A cell whose coordinates fit. -/
structure Cell.Writable (c : Cell) : Prop where
  x : Fits c.x
  y : Fits c.y

/-- A journey whose coordinates fit, with a command at least. -/
structure Journey.Writable (j : Journey) : Prop where
  start : j.start.cell.Writable
  goal : j.goal.cell.Writable
  ne_nil : j.commands ≠ []

/-- A document whose numbers fit and whose journeys have a command at least. -/
structure Document.Writable (d : Document) : Prop where
  width : Fits d.grid.width
  height : Fits d.grid.height
  obstacles : ∀ c ∈ d.obstacles, c.Writable
  journeys : ∀ j ∈ d.journeys, j.Writable

namespace Grammar

variable {text rest : List Char}

/-! ### What is written is spelled -/

/-- A number that fits is written in its decimal digits. -/
theorem exists_number {n : Int} (h : Fits n) :
    ∃ m : Nat, n = m ∧ ∀ {rest : List Char}, Stops Char.isDigit rest →
      Number ((toString n).toList ++ rest) m rest := by
  obtain ⟨hnonneg, hle⟩ := h
  obtain ⟨m, rfl⟩ := Int.eq_ofNat_of_zero_le hnonneg
  refine ⟨m, rfl, fun {rest} hstops => ?_⟩
  have hdigits : (toString (m : Int)).toList = Nat.toDigits 10 m := Nat.toList_repr
  have hvalue : Nat.ofDigitChars 10 (Nat.toDigits 10 m) 0 = m := Nat.ofDigitChars_ten_toDigits
  have hnumber : Number (Nat.toDigits 10 m ++ rest) (Nat.ofDigitChars 10 (Nat.toDigits 10 m) 0)
      rest := by
    refine .run Nat.toDigits_ne_nil ?_ hstops ?_
    · intro c hc
      exact Nat.isDigit_of_mem_toDigits (by decide) (by decide) hc
    · rw [hvalue]
      omega
  rw [hvalue] at hnumber
  rw [hdigits]
  exact hnumber

/-- One space will do. -/
theorem spaces_single : Spaces (' ' :: rest) rest :=
  ⟨0, rfl⟩

/-- A number is over where a space follows. -/
theorem stops_space : Stops Char.isDigit (' ' :: rest) :=
  stops_cons.mpr (by decide)

/-- A line feed is a blank. -/
theorem blanks_lineFeed : Blanks ('\n' :: rest) rest :=
  LineEnd.lineFeed.blanks ⟨[], by simp, rfl⟩

/-- The words of a pose. -/
theorem poseWords_line {p : Pose} (h : p.cell.Writable) (rest : List Char) :
    PoseWords (p.line.toList ++ rest) p rest := by
  obtain ⟨⟨x, y⟩, heading⟩ := p
  obtain ⟨m, rfl, column⟩ := exists_number h.x
  obtain ⟨n, rfl, row⟩ := exists_number h.y
  have hline : (Pose.line ⟨⟨m, n⟩, heading⟩).toList ++ rest
      = (toString (m : Int)).toList ++ ' ' :: ((toString (n : Int)).toList
        ++ ' ' :: heading.letter :: rest) := by
    simp [Pose.line]
  rw [hline]
  exact .mk (column stops_space) spaces_single (row stops_space) spaces_single

/-- The line of an obstacle. -/
theorem spaced_obstacleLine {c : Cell} (h : c.Writable) (rest : List Char) :
    Spaced ObstacleLine (c.obstacleLine.toList ++ rest) c rest := by
  obtain ⟨x, y⟩ := c
  obtain ⟨m, rfl, column⟩ := exists_number h.x
  obtain ⟨n, rfl, row⟩ := exists_number h.y
  have hline : (Cell.obstacleLine ⟨m, n⟩).toList ++ rest
      = 'O' :: 'B' :: 'S' :: 'T' :: 'A' :: 'C' :: 'L' :: 'E' :: ' ' ::
        ((toString (m : Int)).toList ++ ' ' :: ((toString (n : Int)).toList ++ '\n' :: rest)) := by
    simp [Cell.obstacleLine]
  rw [hline]
  exact ⟨_, .mk spaces_single (column stops_space) spaces_single (row stops_lineFeed),
    blanks_lineFeed⟩

/-- The lines of a journey. -/
theorem spaced_journeyLines {j : Journey} (h : j.Writable) (rest : List Char) :
    Spaced JourneyLines (j.lines.toList ++ rest) j rest := by
  have hlines : j.lines.toList ++ rest = j.start.line.toList ++ '\n' ::
      (Command.spell j.commands ++ '\n' :: (j.goal.line.toList ++ '\n' :: rest)) := by
    simp [Journey.lines, Journey.spelling]
  rw [hlines]
  exact ⟨_, .mk (poseWords_line h.start _) .lineFeed h.ne_nil .lineFeed (poseWords_line h.goal _),
    blanks_lineFeed⟩

/-- Phrases that are written one after the other. -/
theorem many_join {α : Type} {p : Phrase α} {good : α → Prop} {write : α → String}
    (hp : ∀ {a}, good a → ∀ rest, p ((write a).toList ++ rest) a rest) {as : List α}
    (has : ∀ a ∈ as, good a) (rest : List Char) :
    Many p ((String.join (as.map write)).toList ++ rest) as rest := by
  induction as with
  | nil =>
    have hnil : (String.join ([].map write)).toList ++ rest = rest := by simp
    rw [hnil]
    exact .nil
  | cons a as ih =>
    rw [List.map_cons, String.join_cons, String.toList_append, List.append_assoc]
    exact .cons (hp (has a List.mem_cons_self) _)
      (ih fun b hb => has b (List.mem_cons_of_mem _ hb))

/-- A written document is spelled. -/
theorem spells_render {d : Document} (h : d.Writable) : Spells d.render.toList d := by
  obtain ⟨⟨width, height⟩, cells, js⟩ := d
  -- The text in the form in which the grammar takes it apart.
  obtain ⟨m, rfl, hwidth⟩ := exists_number h.width
  obtain ⟨n, rfl, hheight⟩ := exists_number h.height
  have htext : (Document.render ⟨⟨m, n⟩, cells, js⟩).toList
      = 'G' :: 'R' :: 'I' :: 'D' :: ' ' :: ((toString (m : Int)).toList ++ 'x' ::
        ((toString (n : Int)).toList ++ '\n' :: ((String.join (cells.map Cell.obstacleLine)).toList
          ++ ((String.join (js.map Journey.lines)).toList ++ [])))) := by
    simp [Document.render, Grid.extent]
  have hcross : ∀ rest, Stops Char.isDigit ('x' :: rest) := fun rest =>
    stops_cons.mpr (by decide)
  rw [htext]
  exact .mk ⟨_, .mk spaces_single (hwidth (hcross _)) (hheight stops_lineFeed), blanks_lineFeed⟩
    (many_join spaced_obstacleLine h.obstacles _) (many_join spaced_journeyLines h.journeys _)

/-! ### What is spelled can be written -/

/-- The value of a number fits. -/
theorem Number.fits {n : Nat} (h : Number text n rest) : Fits n := by
  obtain ⟨_, _, _, hfits⟩ := h
  unfold Fits
  omega

/-- The coordinates of a pose fit. -/
theorem PoseWords.writable {p : Pose} (h : PoseWords text p rest) : p.cell.Writable := by
  obtain ⟨column, _, row, _⟩ := h
  exact ⟨column.fits, row.fits⟩

/-- The coordinates of an obstacle fit. -/
theorem ObstacleLine.writable {c : Cell} (h : ObstacleLine text c rest) : c.Writable := by
  obtain ⟨_, column, _, row⟩ := h
  exact ⟨column.fits, row.fits⟩

/-- The coordinates of a journey fit, and it has commands. -/
theorem JourneyLines.writable {j : Journey} (h : JourneyLines text j rest) : j.Writable := by
  obtain ⟨start, _, hne, _, goal⟩ := h
  exact ⟨start.writable, goal.writable, hne⟩

/-- What is true of each phrase is true of all phrases in a row. -/
theorem Many.forall_mem {α : Type} {p : Phrase α} {good : α → Prop} {as : List α}
    (hp : ∀ {text a rest}, p text a rest → good a) (h : Many p text as rest) :
    ∀ a ∈ as, good a := by
  induction h with
  | nil => exact fun a ha => absurd ha List.not_mem_nil
  | cons first _ ih =>
    intro b hb
    rcases List.mem_cons.mp hb with rfl | hb
    · exact hp first
    · exact ih b hb

/-- A document that is spelled can be written. -/
theorem writable_of_spells {d : Document} (h : Spells text d) : d.Writable := by
  obtain ⟨⟨_, ⟨_, hwidth, hheight⟩, _⟩, hcells, hjs⟩ := h
  refine ⟨hwidth.fits, hheight.fits, hcells.forall_mem ?_, hjs.forall_mem ?_⟩
  · intro text c rest hspaced
    obtain ⟨_, hline, _⟩ := hspaced
    exact hline.writable
  · intro text j rest hspaced
    obtain ⟨_, hlines, _⟩ := hspaced
    exact hlines.writable

end Grammar

/-- Reading undoes writing on the documents that can be written, and these are all that reading
gives. So a text can be replaced by the written form of its document, and a run of it ends in the
same way. -/
theorem read_render :
    (∀ d : Document, Document.read d.render = .ok d ↔ d.Writable) ∧
      ∀ (text : String) (d : Document), Document.read text = .ok d →
        d.Writable ∧ Document.read d.render = .ok d ∧ run d.render = run text := by
  have hwritten (d : Document) (h : d.Writable) : Document.read d.render = .ok d :=
    read_eq_ok_iff.mpr (spells_render h)
  have hread {text : String} {d : Document} (h : Document.read text = .ok d) : d.Writable :=
    writable_of_spells (read_eq_ok_iff.mp h)
  refine ⟨fun d => ⟨hread, hwritten d⟩, fun text d h => ⟨hread h, hwritten d (hread h), ?_⟩⟩
  -- A run sees nothing of a text but what it is read as.
  unfold run Run.ofText
  rw [hwritten d (hread h), h]

/-- Zeros in front and a carriage return are not written back, and the run is the same. -/
theorem read_render_zeros :
    Document.read "GRID 007x1\r\n0 0 E\nF\n1 0 E"
        = .ok ⟨⟨7, 1⟩, [], [⟨⟨⟨0, 0⟩, .east⟩, [.forward], ⟨⟨1, 0⟩, .east⟩⟩]⟩ ∧
      run (Document.render ⟨⟨7, 1⟩, [], [⟨⟨⟨0, 0⟩, .east⟩, [.forward], ⟨⟨1, 0⟩, .east⟩⟩]⟩)
        = run "GRID 007x1\r\n0 0 E\nF\n1 0 E" := by
  have hread : Document.read "GRID 007x1\r\n0 0 E\nF\n1 0 E"
      = .ok ⟨⟨7, 1⟩, [], [⟨⟨⟨0, 0⟩, .east⟩, [.forward], ⟨⟨1, 0⟩, .east⟩⟩]⟩ := by
    decide +kernel
  exact ⟨hread, (read_render.2 _ _ hread).2.2⟩

end GridWalk
