import GridWalk.Observer.Picture
import GridWalk.Proofs.Drawings
import Mathlib.Data.Finset.Card

/-!
# `GridWalk.Proofs.Relisting`: how obstacles are listed does not matter

A document may list its obstacles in any order, and each of them any number of times. Its arena
keeps the set alone, so `Document.arena_eq_iff` holds: two documents have the same arena exactly
when they differ only in how they list the same obstacles. Whatever looks at the arena then sees
no difference: the robots, the recorder, the picture.

A plot goes through the set cell by cell, and in which order it does so may well come from the
list. All that can show this are the squares of the obstacles, which stand together. They are the
same squares in whatever order (`Plot.isRearranged_calls`).

The check looks at the list. What it says about the grid and about the poses does not depend on
the obstacles (`Document.filter_violations`). What it says about an obstacle depends on nothing
but that obstacle, so a relisting can only move and repeat it (`Document.mem_violations_iff`).
-/

set_option autoImplicit false

namespace GridWalk

/-- Two lists give the same set exactly when they list the same cells. -/
theorem CellSet.ofList_eq_iff {xs ys : List Cell} :
    ofList xs = ofList ys ↔ ∀ c, c ∈ xs ↔ c ∈ ys := by
  constructor
  · intro h c
    rw [← mem_toList_ofList, h, mem_toList_ofList]
  · intro h
    refine ext_mem fun c => ?_
    rw [mem_toList_ofList, mem_toList_ofList]
    exact h c

/-- No member comes twice. -/
theorem CellSet.nodup_toList (s : CellSet) : s.toList.Nodup := by
  refine s.ordered.imp fun {c d} hbefore heq => ?_
  subst heq
  exact Cell.not_before_self c hbefore

/-- The set of a list has as many members as the list has different cells. -/
theorem CellSet.size_ofList (cells : List Cell) : (ofList cells).size = cells.toFinset.card := by
  have hmembers : (ofList cells).toList.toFinset = cells.toFinset := by
    ext c
    rw [List.mem_toFinset, List.mem_toFinset, mem_toList_ofList]
  rw [← hmembers, List.toFinset_card_of_nodup (ofList cells).nodup_toList]
  rfl

/-! ### The squares of a plot -/

/-- The call fills the square of a cell. -/
def DrawCall.isSquare : DrawCall → Bool
  | square _ => true
  | _ => false

namespace Plot

/-- The second drawing is the first with its squares in another order. The squares stand together,
and there is one for each of the cells. -/
inductive IsRearranged (cells : List Cell) : List DrawCall → List DrawCall → Prop
  | intro {before after : List DrawCall} {first second : List Cell}
      (others : ∀ call ∈ before ++ after, call.isSquare = false)
      (mem_iff : ∀ c, c ∈ first ↔ c ∈ cells) (nodup : first.Nodup) (perm : first.Perm second) :
      IsRearranged cells (before ++ first.map .square ++ after)
        (before ++ second.map .square ++ after)

/-- Drawings with rearranged squares have the same calls. -/
theorem IsRearranged.perm {cells : List Cell} {calls calls' : List DrawCall}
    (h : IsRearranged cells calls calls') : calls.Perm calls' := by
  cases h with
  | intro _ _ _ hperm => exact ((hperm.map _).append_left _).append_right _

/-- The squares of the obstacles stand together. Nothing else in a drawing is a square, and nothing
else depends on the order in which the obstacles are gone through. -/
theorem exists_calls_eq_squares (a : Arena) (trips : List (List Pose × Outcome))
    (title path : String) :
    ∃ before after, (∀ call ∈ before ++ after, call.isSquare = false) ∧
      ∀ arrangement, calls a trips title path arrangement =
        before ++ arrangement.cells.map .square ++ after := by
  refine ⟨[.clear] ++ frame a.grid, trips.zipIdx.flatMap (fun entry =>
    journey entry.2 entry.1.1 entry.1.2) ++ [.title (heading title a (trips.map Prod.snd)),
      .save path, .close], ?_, fun arrangement => ?_⟩
  · intro call hcall
    simp only [List.mem_append, List.mem_flatMap] at hcall
    rcases hcall with (hclear | hframe) | ⟨entry, -, hjourney⟩ | hend
    · rw [List.mem_singleton.mp hclear]
      rfl
    · revert call
      unfold frame
      split <;> simp [DrawCall.isSquare]
    · have hdrawn := isOfJourney_of_mem_journey hjourney
      cases call <;> first | rfl | cases hdrawn
    · revert call
      simp [DrawCall.isSquare]
  · simp only [calls, obstacles, List.append_assoc]

/-- To go through the obstacles in another order rearranges the squares. -/
theorem isRearranged_calls (d : Document) (trips : List (List Pose × Outcome))
    (title path : String) (s t : d.arena.obstacles.Arrangement) :
    IsRearranged d.obstacles (calls d.arena trips title path s)
      (calls d.arena trips title path t) := by
  obtain ⟨before, after, hothers, hcalls⟩ := exists_calls_eq_squares d.arena trips title path
  rw [hcalls, hcalls]
  refine .intro hothers (fun c => ?_) ?_ (s.perm.trans t.perm.symm)
  · rw [s.perm.mem_iff]
    exact CellSet.mem_toList_ofList
  · exact s.perm.nodup_iff.mpr (CellSet.nodup_toList _)

end Plot

/-! ### What the check says of which part -/

namespace Grid

variable {g : Grid} {v : Violation}

theorem kind_of_mem_ownViolations (h : v ∈ g.ownViolations) : v.kind = .invalidGrid := by
  unfold ownViolations at h
  split at h
  · cases h
  · rw [List.mem_singleton.mp h]
    rfl

theorem mem_obstacleViolations {c : Cell} :
    v ∈ g.obstacleViolations c ↔ c ∉ g ∧ v = .obstacleOutside c g := by
  rw [obstacleViolations, ← contains_eq_false_iff]
  cases g.contains c <;> simp

theorem kind_of_mem_journeyViolations {j : Journey} (h : v ∈ g.journeyViolations j) :
    v.kind = .poseOutside := by
  rw [Document.journeyViolations_eq] at h
  obtain ⟨p, hp, rfl⟩ := List.mem_map.mp h
  have hplaced := (List.mem_filter.mp hp).1
  simp only [Journey.placements, List.mem_cons, List.not_mem_nil, or_false] at hplaced
  rcases hplaced with rfl | rfl <;> rfl

end Grid

namespace Document

variable {d e : Document}

/-- What is said about the grid and the poses depends on the grid and the journeys alone. -/
theorem filter_violations (d : Document) :
    d.violations.filter (·.kind ≠ .obstacleOutside)
      = d.grid.ownViolations ++ d.journeys.flatMap d.grid.journeyViolations := by
  have hgrid : d.grid.ownViolations.filter (·.kind ≠ .obstacleOutside) = d.grid.ownViolations := by
    rw [List.filter_eq_self]
    intro v hv
    rw [Grid.kind_of_mem_ownViolations hv]
    rfl
  have hobstacles : (d.obstacles.flatMap d.grid.obstacleViolations).filter
      (·.kind ≠ .obstacleOutside) = [] := by
    rw [List.filter_eq_nil_iff]
    intro v hv
    obtain ⟨c, -, hv⟩ := List.mem_flatMap.mp hv
    rw [(Grid.mem_obstacleViolations.mp hv).2]
    exact of_decide_eq_false rfl
  have hposes : (d.journeys.flatMap d.grid.journeyViolations).filter
      (·.kind ≠ .obstacleOutside) = d.journeys.flatMap d.grid.journeyViolations := by
    rw [List.filter_eq_self]
    intro v hv
    obtain ⟨j, -, hv⟩ := List.mem_flatMap.mp hv
    rw [Grid.kind_of_mem_journeyViolations hv]
    rfl
  rw [violations, List.filter_append, List.filter_append, hgrid, hobstacles, hposes,
    List.append_nil]

/-- What is said about obstacles is said about those outside the grid. -/
theorem mem_violations_iff {v : Violation} (hkind : v.kind = .obstacleOutside) :
    v ∈ d.violations ↔ ∃ c ∈ d.obstacles, c ∉ d.grid ∧ v = .obstacleOutside c d.grid := by
  have hgrid : v ∉ d.grid.ownViolations := by
    intro hv
    rw [Grid.kind_of_mem_ownViolations hv] at hkind
    cases hkind
  have hposes : v ∉ d.journeys.flatMap d.grid.journeyViolations := by
    intro hv
    obtain ⟨j, -, hv⟩ := List.mem_flatMap.mp hv
    rw [Grid.kind_of_mem_journeyViolations hv] at hkind
    cases hkind
  rw [violations, List.mem_append, List.mem_append, or_iff_left hposes, or_iff_right hgrid,
    List.mem_flatMap]
  simp only [Grid.mem_obstacleViolations]

/-! ### Relistings -/

/-- The second document differs from the first at most in the order of its obstacles and in how
often it lists each of them. -/
structure IsRelisting (d e : Document) : Prop where
  grid : d.grid = e.grid
  journeys : d.journeys = e.journeys
  obstacles : ∀ c, c ∈ d.obstacles ↔ c ∈ e.obstacles

/-- The arena forgets how the obstacles are listed, and nothing else. -/
theorem arena_eq_iff : d.arena = e.arena ↔ d.IsRelisting e := by
  rw [arena, arena, Arena.mk.injEq, CellSet.ofList_eq_iff]
  constructor
  · intro h
    exact ⟨h.1, h.2.2, h.2.1⟩
  · intro h
    exact ⟨h.grid, h.obstacles, h.journeys⟩

namespace IsRelisting

variable {r s : Rejection}

/-- Both documents pass, or neither does. -/
theorem exists_check_eq_ok_iff (h : d.IsRelisting e) :
    (∃ a, d.check = .ok a) ↔ ∃ b, e.check = .ok b := by
  simp only [check_eq_ok_iff_sound, arena_eq_iff.mpr h]

/-- The notices about the grid and the poses are the same, in the same order. -/
theorem filter_notices_eq (h : d.IsRelisting e) (hr : d.check = .error r)
    (hs : e.check = .error s) :
    r.notices.filter (·.kind ≠ .obstacleOutside)
      = s.notices.filter (·.kind ≠ .obstacleOutside) := by
  -- A notice has the kind of its violation, so the violations can be filtered instead.
  have hfilter : ∀ vs : List Violation,
      (vs.map Notice.ofViolation).filter (·.kind ≠ .obstacleOutside)
        = (vs.filter (·.kind ≠ .obstacleOutside)).map Notice.ofViolation :=
    fun vs => List.filter_map
  rw [(check_eq_error_iff.mp hr).2, (check_eq_error_iff.mp hs).2, hfilter, hfilter,
    filter_violations, filter_violations, h.grid, h.journeys]

/-- The notices about obstacles are the same, apart from their order and number. -/
theorem mem_notices_iff (h : d.IsRelisting e) (hr : d.check = .error r) (hs : e.check = .error s)
    {n : Notice} (hkind : n.kind = .obstacleOutside) : n ∈ r.notices ↔ n ∈ s.notices := by
  have hviolations : ∀ v : Violation, v.kind = .obstacleOutside →
      (v ∈ d.violations ↔ v ∈ e.violations) := by
    intro v hv
    rw [mem_violations_iff hv, mem_violations_iff hv, h.grid]
    simp only [h.obstacles]
  rw [(check_eq_error_iff.mp hr).2, (check_eq_error_iff.mp hs).2, List.mem_map, List.mem_map]
  refine exists_congr fun v => and_congr_left fun hv => hviolations v ?_
  rw [← hkind, ← hv]
  rfl

end IsRelisting

end Document

/-- The order and the repetition of obstacles do not matter.

Take two documents with the same grid and the same journeys, whose obstacles are the same cells,
in any order and with any repetitions. The same cells are blocked in both. All journeys end in
the same way, with the same output lines, and a recorder keeps the same of them. Every picture
is the same.

Every plot has the same calls, whatever the orders in which the two sets of obstacles are gone
through. These may come from the lists, and then the squares of the obstacles come in the one order
and in the other. They stand at the same place in both plots, one for each of the different
obstacles, and all other calls are the same one by one. If the order comes from the set alone, all
calls are the same one by one.

Both documents pass the check or neither does. If both pass, their arenas have the same grid, the
same set of obstacles and the same journeys. If neither does, what they are told of the grid and of
the poses is the same, in the same order, and of the obstacles they are told the same things, in
whatever order and however often. -/
theorem obstacles_listed_anyhow {d e : Document} (h : d.IsRelisting e) :
    (∀ c, d.arena.isBlocked c = e.arena.isBlocked c) ∧
      d.arena.outcomes = e.arena.outcomes ∧
      d.arena.outcomes.map Outcome.line = e.arena.outcomes.map Outcome.line ∧
      d.arena.recorded = e.arena.recorded ∧
      (∀ range p, Picture.render d.arena range p = Picture.render e.arena range p) ∧
      (∀ title path (s : d.arena.obstacles.Arrangement) (t : e.arena.obstacles.Arrangement),
        (Plot.calls d.arena d.arena.recorded.2.trips title path s).Perm
            (Plot.calls e.arena e.arena.recorded.2.trips title path t) ∧
          Plot.IsRearranged d.obstacles (Plot.calls d.arena d.arena.recorded.2.trips title path s)
            (Plot.calls e.arena e.arena.recorded.2.trips title path t)) ∧
      (∀ title path (order : CellSet.Order),
        Plot.calls d.arena d.arena.recorded.2.trips title path (order d.arena.obstacles)
          = Plot.calls e.arena e.arena.recorded.2.trips title path (order e.arena.obstacles)) ∧
      ((∃ a, d.check = .ok a) ↔ ∃ b, e.check = .ok b) ∧
      (∀ a b, d.check = .ok a → e.check = .ok b →
        a.grid = b.grid ∧ a.obstacles = b.obstacles ∧ a.journeys = b.journeys) ∧
      ∀ r s, d.check = .error r → e.check = .error s →
        r.notices.filter (·.kind ≠ .obstacleOutside)
            = s.notices.filter (·.kind ≠ .obstacleOutside) ∧
          ∀ n, n.kind = .obstacleOutside → (n ∈ r.notices ↔ n ∈ s.notices) := by
  have harena : d.arena = e.arena := Document.arena_eq_iff.mpr h
  -- The parts about robots, pictures and plots look at nothing but the arena, which is the same.
  rw [← harena]
  refine ⟨fun _ => rfl, rfl, rfl, rfl, fun _ _ => rfl, fun title path s t => ?_, fun _ _ _ => rfl,
    h.exists_check_eq_ok_iff, ?_, ?_⟩
  · have hsquares := Plot.isRearranged_calls d d.arena.recorded.2.trips title path s t
    exact ⟨hsquares.perm, hsquares⟩
  · intro a b ha hb
    obtain ⟨-, rfl⟩ := Document.check_eq_ok_iff.mp ha
    obtain ⟨-, rfl⟩ := Document.check_eq_ok_iff.mp hb
    exact ⟨h.grid, congrArg Arena.obstacles harena, h.journeys⟩
  · intro r s hr hs
    exact ⟨h.filter_notices_eq hr hs, fun n hn => h.mem_notices_iff hr hs hn⟩

/-- A relisting that moves one obstacle and repeats another. Both are outside the grid, so the
notices of the two documents differ. The plots go through the obstacles as they are listed. -/
theorem obstacles_listed_anyhow_outside :
    let d : Document := ⟨⟨2, 2⟩, [⟨1, 1⟩, ⟨5, 0⟩, ⟨0, 7⟩],
      [⟨⟨⟨0, 0⟩, .east⟩, [.forward], ⟨⟨1, 3⟩, .east⟩⟩]⟩
    let e : Document := ⟨⟨2, 2⟩, [⟨0, 7⟩, ⟨5, 0⟩, ⟨1, 1⟩, ⟨5, 0⟩], d.journeys⟩
    d.IsRelisting e ∧ ∃ r s, d.check = .error r ∧ e.check = .error s ∧
      r.notices.length = 3 ∧ s.notices.length = 4 ∧
      r.notices.filter (·.kind ≠ .obstacleOutside)
        = s.notices.filter (·.kind ≠ .obstacleOutside) ∧
      d.arena.outcomes = e.arena.outcomes ∧
      (Plot.calls d.arena d.arena.recorded.2.trips "" "image.png"
          ⟨[⟨1, 1⟩, ⟨5, 0⟩, ⟨0, 7⟩], by decide⟩).Perm
        (Plot.calls e.arena e.arena.recorded.2.trips "" "image.png"
          ⟨[⟨0, 7⟩, ⟨5, 0⟩, ⟨1, 1⟩], by decide⟩) := by
  intro d e
  have h : d.IsRelisting e := ⟨rfl, rfl, fun c => by simp [d, e, or_comm, or_left_comm]⟩
  obtain ⟨-, houtcomes, -, -, -, hplots, -, -, -, hnotices⟩ := obstacles_listed_anyhow h
  exact ⟨h, _, _, rfl, rfl, rfl, rfl, (hnotices _ _ rfl rfl).1, houtcomes,
    (hplots "" "image.png" _ _).1⟩

end GridWalk
